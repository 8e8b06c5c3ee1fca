/-
Sets of code points. A set is the ascending list of the code points at which membership changes: below
the first nothing is a member, from the first up to the second everything is, and so on. Whatever is
decided code point by code point from membership in two sets is one merge of two such lists. Surrogates
stand for no character; the operations that could add them take them out.
-/
import UsbInventory.Text.Blank

namespace UsbInventory.Text

/-- A set of code points, by the code points at which membership changes. -/
structure CodeSet where
  changes : List Nat
  deriving DecidableEq, Repr

namespace CodeSet

/-! ## Membership -/

/-- Whether a code point is a member, where `inside` tells whether those below the first change are. -/
def holdsFrom (inside : Bool) : List Nat → Nat → Bool
  | [], _ => inside
  | change :: rest, n => if n < change then inside else holdsFrom (!inside) rest n

/-- Whether a code point belongs to a set. -/
def has (s : CodeSet) (n : Nat) : Bool := holdsFrom false s.changes n

/-- Whether a character belongs to a set. -/
def holds (s : CodeSet) (c : Char) : Bool := s.has c.toNat

/-- The first and last members of every run of members, in order. -/
def runsFrom : List Nat → List (Nat × Nat)
  | first :: next :: rest => (first, next - 1) :: runsFrom rest
  | [first] => [(first, 0x10FFFF)]
  | [] => []

/-- The runs of members, in order. -/
def runs (s : CodeSet) : List (Nat × Nat) := runsFrom s.changes

def isEmpty (s : CodeSet) : Bool := s.changes.isEmpty

/-! ## Building -/

/-- No code points. -/
def empty : CodeSet := ⟨[]⟩

/-- All characters. -/
def all : CodeSet := ⟨[0, 0xD800, 0xE000, 0x110000]⟩

/-- Changes with one more before them, unless it changes nothing. -/
def change (before after : Bool) (at_ : Nat) (rest : List Nat) : List Nat :=
  if before == after then rest else at_ :: rest

/-- The changes of the set whose members are found by `op` from membership in two others; `x` and `y`
tell whether the code points below the first changes are members of those. -/
def merge (op : Bool → Bool → Bool) (x y : Bool) : List Nat → List Nat → List Nat
  | [], bs => if op x y == op x (!y) then [] else bs
  | as, [] => if op x y == op (!x) y then [] else as
  | a :: as, b :: bs =>
    if a < b then change (op x y) (op (!x) y) a (merge op (!x) y as (b :: bs))
    else if b < a then change (op x y) (op x (!y)) b (merge op x (!y) (a :: as) bs)
    else change (op x y) (op (!x) (!y)) a (merge op (!x) (!y) as bs)
termination_by as bs => as.length + bs.length

/-- The members of either set. -/
def union (s t : CodeSet) : CodeSet := ⟨merge (· || ·) false false s.changes t.changes⟩

/-- The members of both sets. -/
def inter (s t : CodeSet) : CodeSet := ⟨merge (· && ·) false false s.changes t.changes⟩

/-- The members of the first set that are not in the second. -/
def except (s t : CodeSet) : CodeSet := ⟨merge (fun x y => x && !y) false false s.changes t.changes⟩

/-- The members of exactly one of two sets. -/
def symmetric (s t : CodeSet) : CodeSet := ⟨merge (· != ·) false false s.changes t.changes⟩

/-- All characters that are not members. -/
def complement (s : CodeSet) : CodeSet := all.except s

/-- The characters with the given numbers, ends included. -/
def ofRange (first last : Nat) : CodeSet :=
  if first ≤ last then all.inter ⟨[first, last + 1]⟩ else empty

/-- The characters from `first` to `last`. -/
def range (first last : Char) : CodeSet := ofRange first.toNat last.toNat

def single (c : Char) : CodeSet := range c c

/-- The union of ranges. -/
def ofRanges (rs : List (Nat × Nat)) : CodeSet :=
  rs.foldr (fun r rest => (ofRange r.1 r.2).union rest) empty

/-- The union of many sets. -/
def unions (ss : List CodeSet) : CodeSet := ss.foldr union empty

/-- The changes of the set of numbers in an ascending list. -/
def changesOf : List Nat → List Nat
  | [] => []
  | n :: rest =>
    match changesOf rest with
    | first :: more =>
      if first = n + 1 then n :: more
      else if first = n then first :: more
      else n :: (n + 1) :: first :: more
    | [] => [n, n + 1]

/-- The set of the given numbers. -/
def ofList (ns : List Nat) : CodeSet := ⟨changesOf (ns.mergeSort (· ≤ ·))⟩

/-! ## The written form

Tables of code points are written as decimal numbers: how many code points from U+0000 on are not in the
set, how many after these are, how many then are not, and so on. `n*k` stands for `k` numbers `n`. -/

/-- A number in decimal. -/
def number (digits : List Char) : Nat :=
  digits.foldl (fun n c => n * 10 + (c.toNat - '0'.toNat)) 0

/-- The numbers that one word of a table stands for. -/
def readWord (word : List Char) : List Nat :=
  match word.dropWhile (· != '*') with
  | [] => [number word]
  | _ :: count => List.replicate (number count) (number (word.takeWhile (· != '*')))

/-- The sums of a list of lengths up to each of them. -/
def positions (at_ : Nat) : List Nat → List Nat
  | [] => []
  | n :: rest => (at_ + n) :: positions (at_ + n) rest

/-- Reads a table from its lines. -/
def ofTable (lines : List String) : CodeSet :=
  ⟨positions 0 ((lines.flatMap fun line => words line.toList).flatMap readWord)⟩

/-! ## Laws -/

/-- Below all changes nothing has changed yet. -/
theorem holdsFrom_of_lt {n : Nat} {cs : List Nat} (h : ∀ c ∈ cs, n < c) (x : Bool) :
    holdsFrom x cs n = x := by
  cases cs with
  | nil => rfl
  | cons c rest => simp [holdsFrom, h c]

theorem holdsFrom_cons_of_le {n c : Nat} (h : c ≤ n) (x : Bool) (cs : List Nat) :
    holdsFrom x (c :: cs) n = holdsFrom (!x) cs n := by
  simp [holdsFrom, Nat.not_lt.2 h]

/-- Where a decision does not hang on a set, it is the same everywhere. -/
theorem apply_holdsFrom_of_eq {f : Bool → Bool} {x : Bool} (h : f x = f (!x)) (cs : List Nat)
    (n : Nat) : f (holdsFrom x cs n) = f x := by
  cases hc : holdsFrom x cs n <;> cases x <;> simp_all

/-- Where a decision hangs on a set, it changes where that set does. -/
theorem apply_holdsFrom_of_ne {f : Bool → Bool} {x : Bool} (h : f x ≠ f (!x)) (cs : List Nat)
    (n : Nat) : holdsFrom (f x) cs n = f (holdsFrom x cs n) := by
  induction cs generalizing x with
  | nil => rfl
  | cons c rest ih =>
    have flip : (!f x) = f (!x) := by cases hx : f x <;> cases hy : f (!x) <;> simp_all
    by_cases hn : n < c
    · simp [holdsFrom, hn]
    · rw [holdsFrom_cons_of_le (Nat.not_lt.1 hn), holdsFrom_cons_of_le (Nat.not_lt.1 hn), flip,
        ih (by simpa using h.symm)]

/-- Nothing changes below a change. -/
theorem holdsFrom_change {n at_ : Nat} {before after : Bool} {rest : List Nat}
    (below : n < at_ → holdsFrom after rest n = after) :
    holdsFrom before (change before after at_ rest) n =
      if n < at_ then before else holdsFrom after rest n := by
  by_cases hn : n < at_ <;> cases before <;> cases after <;> simp_all [change, holdsFrom]

/-- A merge decides every code point from membership in the two sets. -/
theorem holdsFrom_merge (op : Bool → Bool → Bool) (n : Nat) (x y : Bool) (as bs : List Nat)
    (ha : as.Pairwise (· < ·)) (hb : bs.Pairwise (· < ·)) :
    holdsFrom (op x y) (merge op x y as bs) n = op (holdsFrom x as n) (holdsFrom y bs n) := by
  fun_induction merge op x y as bs with
  | case1 x y bs h => exact (apply_holdsFrom_of_eq (by simpa using h) bs n).symm
  | case2 x y bs h => exact apply_holdsFrom_of_ne (by simpa using h) bs n
  | case3 x y as _ h =>
    exact (apply_holdsFrom_of_eq (f := fun b => op b y) (by simpa using h) as n).symm
  | case4 x y as _ h => exact apply_holdsFrom_of_ne (f := fun b => op b y) (by simpa using h) as n
  | case5 x y a as b bs hab ih =>
    rw [List.pairwise_cons] at ha
    have ih := ih ha.2 hb
    have hlt : n < a → holdsFrom (!x) as n = !x ∧ holdsFrom y (b :: bs) n = y := fun hn =>
      ⟨holdsFrom_of_lt (fun c hc => Nat.lt_trans hn (ha.1 c hc)) _,
        by simp [holdsFrom, Nat.lt_trans hn hab]⟩
    rw [holdsFrom_change (fun hn => by rw [ih, (hlt hn).1, (hlt hn).2])]
    split
    · next hn => simp [holdsFrom, hn, Nat.lt_trans hn hab]
    · next hn => rw [ih, holdsFrom_cons_of_le (Nat.not_lt.1 hn)]
  | case6 x y a as b bs hab hba ih =>
    rw [List.pairwise_cons] at hb
    have ih := ih ha hb.2
    have hlt : n < b → holdsFrom x (a :: as) n = x ∧ holdsFrom (!y) bs n = !y := fun hn =>
      ⟨by simp [holdsFrom, Nat.lt_trans hn hba],
        holdsFrom_of_lt (fun c hc => Nat.lt_trans hn (hb.1 c hc)) _⟩
    rw [holdsFrom_change (fun hn => by rw [ih, (hlt hn).1, (hlt hn).2])]
    split
    · next hn => simp [holdsFrom, hn, Nat.lt_trans hn hba]
    · next hn => rw [ih, holdsFrom_cons_of_le (Nat.not_lt.1 hn) y]
  | case7 x y a as b bs hab hba ih =>
    obtain rfl : a = b := by omega
    rw [List.pairwise_cons] at ha hb
    have ih := ih ha.2 hb.2
    have hlt : n < a → holdsFrom (!x) as n = !x ∧ holdsFrom (!y) bs n = !y := fun hn =>
      ⟨holdsFrom_of_lt (fun c hc => Nat.lt_trans hn (ha.1 c hc)) _,
        holdsFrom_of_lt (fun c hc => Nat.lt_trans hn (hb.1 c hc)) _⟩
    rw [holdsFrom_change (fun hn => by rw [ih, (hlt hn).1, (hlt hn).2])]
    split
    · next hn => simp [holdsFrom, hn]
    · next hn =>
      rw [ih, holdsFrom_cons_of_le (Nat.not_lt.1 hn), holdsFrom_cons_of_le (Nat.not_lt.1 hn)]

theorem mem_change {c at_ : Nat} {before after : Bool} {rest : List Nat}
    (h : c ∈ change before after at_ rest) : c = at_ ∨ c ∈ rest := by
  unfold change at h
  split at h
  · exact .inr h
  · exact List.mem_cons.1 h

theorem mem_merge {op : Bool → Bool → Bool} {c : Nat} {x y : Bool} {as bs : List Nat}
    (h : c ∈ merge op x y as bs) : c ∈ as ∨ c ∈ bs := by
  fun_induction merge op x y as bs with
  | case1 => simp at h
  | case2 => exact .inr h
  | case3 => simp at h
  | case4 => exact .inl h
  | case5 x y a as b bs _ ih => grind [mem_change h]
  | case6 x y a as b bs _ _ ih => grind [mem_change h]
  | case7 x y a as b bs _ _ ih => grind [mem_change h]

theorem pairwise_change {at_ : Nat} {before after : Bool} {rest : List Nat}
    (h : rest.Pairwise (· < ·)) (first : ∀ c ∈ rest, at_ < c) :
    (change before after at_ rest).Pairwise (· < ·) := by
  unfold change
  split
  · exact h
  · exact List.pairwise_cons.2 ⟨first, h⟩

/-- The changes of a merge are in ascending order. -/
theorem pairwise_merge (op : Bool → Bool → Bool) (x y : Bool) (as bs : List Nat)
    (ha : as.Pairwise (· < ·)) (hb : bs.Pairwise (· < ·)) :
    (merge op x y as bs).Pairwise (· < ·) := by
  fun_induction merge op x y as bs with
  | case1 | case3 => exact .nil
  | case2 => exact hb
  | case4 => exact ha
  | case5 x y a as b bs hab ih =>
    have ha' := List.pairwise_cons.1 ha
    have hb' := List.pairwise_cons.1 hb
    exact pairwise_change (ih ha'.2 hb) fun c hc => by grind [mem_merge hc]
  | case6 x y a as b bs _ hba ih =>
    have ha' := List.pairwise_cons.1 ha
    have hb' := List.pairwise_cons.1 hb
    exact pairwise_change (ih ha hb'.2) fun c hc => by grind [mem_merge hc]
  | case7 x y a as b bs _ _ ih =>
    have ha' := List.pairwise_cons.1 ha
    have hb' := List.pairwise_cons.1 hb
    exact pairwise_change (ih ha'.2 hb'.2) fun c hc => by grind [mem_merge hc]

/-- Whether the changes of a set are in order, as those of every table and of every operation are. -/
def Ordered (s : CodeSet) : Prop := s.changes.Pairwise (· < ·)

theorem has_union {s t : CodeSet} (hs : s.Ordered) (ht : t.Ordered) (n : Nat) :
    (s.union t).has n = (s.has n || t.has n) := holdsFrom_merge (· || ·) n false false _ _ hs ht

theorem has_inter {s t : CodeSet} (hs : s.Ordered) (ht : t.Ordered) (n : Nat) :
    (s.inter t).has n = (s.has n && t.has n) := holdsFrom_merge (· && ·) n false false _ _ hs ht

theorem has_except {s t : CodeSet} (hs : s.Ordered) (ht : t.Ordered) (n : Nat) :
    (s.except t).has n = (s.has n && !t.has n) :=
  holdsFrom_merge (fun x y => x && !y) n false false _ _ hs ht

theorem has_symmetric {s t : CodeSet} (hs : s.Ordered) (ht : t.Ordered) (n : Nat) :
    (s.symmetric t).has n = (s.has n != t.has n) :=
  holdsFrom_merge (· != ·) n false false _ _ hs ht

theorem Ordered.union {s t : CodeSet} (hs : s.Ordered) (ht : t.Ordered) : (s.union t).Ordered :=
  pairwise_merge _ _ _ _ _ hs ht

theorem Ordered.inter {s t : CodeSet} (hs : s.Ordered) (ht : t.Ordered) : (s.inter t).Ordered :=
  pairwise_merge _ _ _ _ _ hs ht

theorem Ordered.except {s t : CodeSet} (hs : s.Ordered) (ht : t.Ordered) : (s.except t).Ordered :=
  pairwise_merge _ _ _ _ _ hs ht

theorem Ordered.symmetric {s t : CodeSet} (hs : s.Ordered) (ht : t.Ordered) :
    (s.symmetric t).Ordered := pairwise_merge _ _ _ _ _ hs ht

end CodeSet

end UsbInventory.Text
