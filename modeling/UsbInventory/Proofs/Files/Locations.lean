/-
Following the path of a location. Where every name on the way can be the name of a file and no directory on the way
is a link, the path leads to what the location holds, and listing, reading and resolving it give what stands there;
a link at its end leads on to the location that its target is the path of.
-/
import UsbInventory.Proofs.Files.Names
import UsbInventory.Proofs.Path.Components

namespace UsbInventory

open RawPath

/-! ## Names of files -/

/-- A name that the system takes for a file: not too long, without NUL, and not `..`. -/
structure RawPath.IsFileName (name : RawPath) : Prop extends IsName name where
  ascends : name ≠ [dot, dot]
  ended : 0 ∉ name
  short : name.length ≤ FileSystem.maxName

instance (name : RawPath) : Decidable name.IsFileName :=
  decidable_of_iff
    (slash ∉ name ∧ isProper name = true ∧ name ≠ [dot, dot] ∧ 0 ∉ name ∧ name.length ≤ FileSystem.maxName)
    ⟨fun ⟨whole, proper, ascends, ended, short⟩ => ⟨⟨whole, proper⟩, ascends, ended, short⟩,
      fun h => ⟨h.whole, h.proper, h.ascends, h.ended, h.short⟩⟩

namespace RawPath.IsFileName

variable {name : RawPath}

theorem not_absolute (h : name.IsFileName) : name.isAbsolute = false := not_absolute_of_whole h.whole

theorem length_le (h : name.IsFileName) : name.length ≤ 255 := h.short

end RawPath.IsFileName

/-! ## Paths of locations -/

/-- A location that its path can lead to: not the root, by names of files, and not too deep. -/
structure Location.Plain (loc : Location) : Prop where
  some_ : loc ≠ []
  names : ∀ name ∈ loc, IsFileName name
  shallow : 256 * loc.length < FileSystem.maxPath

theorem RawPath.length_flatMap_le {loc : Location} {n : Nat} (h : ∀ name ∈ loc, name.length ≤ n) :
    (loc.flatMap (slash :: ·)).length ≤ (n + 1) * loc.length := by
  induction loc with
  | nil => exact Nat.zero_le _
  | cons name loc ih =>
    have hs := h name List.mem_cons_self
    have := ih fun n hn => h n (List.mem_cons_of_mem _ hn)
    rw [List.flatMap_cons, List.length_append, List.length_cons, List.length_cons, Nat.mul_succ]
    omega

theorem RawPath.length_pathOf_le {loc : Location} {n : Nat} (hne : loc ≠ []) (h : ∀ name ∈ loc, name.length ≤ n) :
    (FileSystem.pathOf loc).length ≤ (n + 1) * loc.length := by
  rw [pathOf_eq hne]
  exact length_flatMap_le h

theorem endsWithSlash_pathOf {loc : Location} (hne : loc ≠ []) (h : ∀ name ∈ loc, IsName name) :
    (FileSystem.pathOf loc).endsWithSlash = false := by
  -- the last byte of the path is that of the last name
  obtain ⟨before, last, rfl⟩ := (List.eq_nil_or_concat loc).resolve_left hne
  have hlast := h last (by simp)
  obtain ⟨b, hb⟩ := Option.ne_none_iff_exists'.1 (mt List.getLast?_eq_none_iff.1 hlast.ne_nil)
  rw [pathOf_eq hne, List.concat_eq_append, List.flatMap_append, List.flatMap_singleton, RawPath.endsWithSlash,
    List.getLast?_append, List.getLast?_cons, hb, Option.getD_some, Option.some_or, beq_eq_false_iff_ne]
  intro hs
  cases hs
  exact hlast.whole (List.mem_of_getLast? hb)

theorem steps_pathOf {loc : Location} (hne : loc ≠ []) (h : ∀ name ∈ loc, IsName name) :
    FileSystem.steps (FileSystem.pathOf loc) = loc := by
  have hnames : FileSystem.namesOf (FileSystem.pathOf loc) = loc := by
    unfold FileSystem.namesOf
    rw [pieces_pathOf hne fun name hn => (h name hn).whole, List.filter_cons_of_neg (by simp), List.filter_eq_self]
    intro name hn
    simp [(h name hn).ne_nil]
  unfold FileSystem.steps
  rw [endsWithSlash_pathOf hne h, hnames]
  rfl

/-- A name joined to the path of a location makes that of the location below it. -/
theorem join_pathOf {loc : Location} {name : RawPath} (h : ∀ n ∈ loc, IsName n) (hn : IsName name) :
    (FileSystem.pathOf loc).join name = FileSystem.pathOf (loc ++ [name]) := by
  have habsolute := not_absolute_of_whole hn.whole
  by_cases hne : loc = []
  · subst hne
    unfold RawPath.join
    rw [habsolute]
    exact (List.append_nil (slash :: name)).symm
  · have hbelow : FileSystem.pathOf (loc ++ [name]) = FileSystem.pathOf loc ++ slash :: name := by
      rw [pathOf_eq (by simp), pathOf_eq hne, List.flatMap_append, List.flatMap_singleton]
    unfold RawPath.join
    rw [habsolute, endsWithSlash_pathOf hne h, List.isEmpty_eq_false_iff.2 (pathOf_ne_nil loc), hbelow]
    rfl

theorem foldl_join_pathOf {names loc : Location} (h : ∀ n ∈ loc, IsName n) (hn : ∀ n ∈ names, IsName n) :
    names.foldl RawPath.join (FileSystem.pathOf loc) = FileSystem.pathOf (loc ++ names) := by
  induction names generalizing loc with
  | nil => rw [List.append_nil, List.foldl_nil]
  | cons name names ih =>
    have hname := hn name List.mem_cons_self
    have hloc : ∀ n ∈ loc ++ [name], IsName n := fun n hm =>
      (List.mem_append.1 hm).elim (h n) fun hm => List.mem_singleton.1 hm ▸ hname
    rw [List.foldl_cons, join_pathOf h hname, ih hloc fun n hm => hn n (List.mem_cons_of_mem name hm),
      List.append_assoc]
    rfl

theorem ended_pathOf {loc : Location} (h : ∀ name ∈ loc, 0 ∉ name) : 0 ∉ FileSystem.pathOf loc := by
  by_cases hne : loc = []
  · subst hne
    decide
  · rw [pathOf_eq hne, List.mem_flatMap]
    rintro ⟨name, hn, hm⟩
    rcases List.mem_cons.1 hm with hs | hm
    · cases hs
    · exact h name hn hm

namespace Location.Plain

variable {loc : Location}

theorem steps (h : loc.Plain) : FileSystem.steps (FileSystem.pathOf loc) = loc :=
  steps_pathOf h.some_ fun name hn => (h.names name hn).toIsName

theorem join {name : RawPath} (h : loc.Plain) (hn : name.IsFileName) :
    (FileSystem.pathOf loc).join name = FileSystem.pathOf (loc ++ [name]) :=
  join_pathOf (fun n hm => (h.names n hm).toIsName) hn.toIsName

theorem ended (h : loc.Plain) : 0 ∉ FileSystem.pathOf loc := ended_pathOf fun name hn => (h.names name hn).ended

end Location.Plain

/-! ## Finding -/

theorem Entry.find?_append (below : Location) : ∀ (loc : Location) (e : Entry),
    e.find? (loc ++ below) = (e.find? loc).bind (·.find? below)
  | [], _ => rfl
  | name :: loc, e => by
    cases e with
    | file content => rfl
    | link target => rfl
    | directory es =>
      rw [List.cons_append, find?, find?, Option.bind_assoc]
      exact congrArg _ (funext (find?_append below loc))

/-- A link holds nothing below it, so none is on the way to what is not a link. -/
theorem Entry.not_link_of_find? {x e : Entry} {way : Location} (hf : x.find? way = some e)
    (he : ∀ target, e ≠ .link target) (target : RawPath) : x ≠ .link target := by
  rintro rfl
  cases way with
  | nil => exact he target (Option.some.inj hf).symm
  | cons name way => cases hf

namespace Place

theorem location_cons (name : RawPath) (es : List (RawPath × Entry)) (e : Entry) (p : Place) :
    location ⟨e, (name, es) :: p.above⟩ = p.location ++ [name] := by simp [location]

/-- The length of the path of a place is that of its names with a slash before each. -/
theorem pathLength_eq (p : Place) : p.pathLength = (p.location.flatMap (slash :: ·)).length := by
  have hfold : ∀ (above : List (RawPath × List (RawPath × Entry))) (n : Nat),
      above.foldl (fun n d => n + 1 + d.1.length) n = n + ((above.map (·.1)).flatMap (slash :: ·)).length := by
    intro above
    induction above with
    | nil => exact fun n => rfl
    | cons d above ih =>
      intro n
      rw [List.foldl_cons, ih, List.map_cons, List.flatMap_cons, List.length_append, List.length_cons]
      omega
  -- the names on the way are kept last one first
  rw [pathLength, hfold, location, List.flatMap_reverse, List.length_reverse, Nat.zero_add]
  simp [List.length_flatMap]

/-- Below a place that holds something at the end of a way, the names of the way all lead down. -/
theorem enterAll_of_find? {way : Location} {p : Place} {e : Entry} (h : p.entry.find? way = some e) :
    (p.enterAll way).entry = e ∧ (p.enterAll way).location = p.location ++ way := by
  induction way generalizing p with
  | nil => exact ⟨Option.some.inj h, (List.append_nil _).symm⟩
  | cons name way ih =>
    obtain ⟨es, inner, hes, hl, hf⟩ := Entry.find?_cons_eq_some h
    rw [enterAll_cons hes hl]
    obtain ⟨hentry, hlocation⟩ := ih (p := ⟨inner, (name, es) :: p.above⟩) hf
    refine ⟨hentry, ?_⟩
    rw [hlocation, location_cons, List.append_assoc]
    rfl

end Place

namespace FileSystem

/-! ## Steps -/

theorem startIn_pathOf (fs : FileSystem) (dir : Place) (loc : Location) : fs.startIn dir (pathOf loc) = fs.rootPlace :=
  if_pos (isAbsolute_pathOf loc)

/-- A step from a directory under a name that leads down: a link stops it. -/
theorem reach_down {limited : Bool} {at_ : Place} {es : List (RawPath × Entry)} {name : RawPath}
    (hes : at_.entry = .directory es) (hdot : name ≠ [dot]) (hdots : name ≠ [dot, dot]) (hshort : name.length ≤ maxName)
    (hlen : limited = true → at_.pathLength + 1 + name.length < maxPath) (rest : List RawPath) :
    reach limited at_ (name :: rest) =
      match es.lookup name with
      | none => .failed (.system SystemError.noEntry)
      | some (.link target) => .link at_ target rest
      | some e => reach limited ⟨e, (name, es) :: at_.above⟩ rest := by
  have hup : ¬ (name = [dot] ∨ name = [dot, dot]) := not_or.2 ⟨hdot, hdots⟩
  have hfits : ¬ (decide (maxName < name.length) ||
      limited && decide (maxPath ≤ at_.pathLength + (name.length + 1))) = true := by
    simp only [Bool.or_eq_true, Bool.and_eq_true, decide_eq_true_eq, not_or, not_and]
    exact ⟨by omega, fun hl => by have := hlen hl; omega⟩
  rw [reach, hes]
  dsimp only
  cases es.lookup name with
  | none => rw [if_neg hup, if_neg hfits]
  | some e => cases e <;> rw [if_neg hup, if_neg hfits]

theorem reach_name {limited : Bool} {at_ : Place} {es : List (RawPath × Entry)} {name : RawPath}
    (hes : at_.entry = .directory es) (hn : name.IsFileName)
    (hlen : limited = true → at_.pathLength + 1 + name.length < maxPath) (rest : List RawPath) :
    reach limited at_ (name :: rest) =
      match es.lookup name with
      | none => .failed (.system SystemError.noEntry)
      | some (.link target) => .link at_ target rest
      | some e => reach limited ⟨e, (name, es) :: at_.above⟩ rest :=
  reach_down hes hn.ne_dot hn.ascends hn.short hlen rest

/-- The names of a way that does not end in a link lead to its end, where the path there is short enough. -/
theorem reach_enterAll (limited : Bool) (rest : List RawPath) : ∀ (way : Location) (p : Place) (e : Entry),
    p.entry.find? way = some e → (∀ target, e ≠ .link target) → (∀ name ∈ way, IsFileName name) →
    (limited = true → (p.enterAll way).pathLength < maxPath) →
    reach limited p (way ++ rest) = reach limited (p.enterAll way) rest
  | [], _, _, _, _, _, _ => rfl
  | name :: way, p, e, hf, he, hnames, hshort => by
    obtain ⟨es, inner, hes, hl, hf⟩ := Entry.find?_cons_eq_some hf
    rw [Place.enterAll_cons hes hl] at hshort ⊢
    have hinner := Entry.not_link_of_find? hf he
    have hlong : limited = true → p.pathLength + 1 + name.length < maxPath := by
      intro hlimited
      have := hshort hlimited
      rw [Place.pathLength_eq, (Place.enterAll_of_find? hf).2, Place.location_cons] at this
      rw [Place.pathLength_eq]
      simp only [List.flatMap_append, List.flatMap_singleton, List.length_append, List.length_cons] at this
      omega
    -- so the step is taken
    have hstep : reach limited p (name :: (way ++ rest)) =
        reach limited ⟨inner, (name, es) :: p.above⟩ (way ++ rest) := by
      rw [reach_name hes (hnames name List.mem_cons_self) hlong, hl]
      cases inner with
      | link target => exact absurd rfl (hinner target)
      | file content => rfl
      | directory below => rfl
    rw [List.cons_append, hstep]
    exact reach_enterAll limited rest way _ e hf he (fun n hn => hnames n (List.mem_cons_of_mem name hn)) hshort

/-- Steps along a location go to what it holds. -/
theorem reach_find (limited : Bool) (rest : List RawPath) (loc : Location) (at_ : Place) (e : Entry)
    (hf : at_.entry.find? loc = some e) (he : ∀ target, e ≠ .link target) (hnames : ∀ name ∈ loc, IsFileName name)
    (hlen : limited = true → at_.pathLength + 256 * loc.length < maxPath) :
    ∃ p : Place, reach limited at_ (loc ++ rest) = reach limited p rest ∧ p.entry = e ∧
      p.location = at_.location ++ loc ∧ p.pathLength ≤ at_.pathLength + 256 * loc.length := by
  obtain ⟨hentry, hlocation⟩ := Place.enterAll_of_find? hf
  have hdeep : (at_.enterAll loc).pathLength ≤ at_.pathLength + 256 * loc.length := by
    have hle : (loc.flatMap (slash :: ·)).length ≤ 256 * loc.length :=
      length_flatMap_le fun n hn => (hnames n hn).short
    rw [Place.pathLength_eq, Place.pathLength_eq, hlocation, List.flatMap_append, List.length_append]
    omega
  refine ⟨at_.enterAll loc, reach_enterAll limited rest loc at_ e hf he hnames fun hl => ?_, hentry, hlocation, hdeep⟩
  have := hlen hl
  omega

variable {fs : FileSystem} {loc : Location} {name : RawPath} {e : Entry} {es : List (RawPath × Entry)}

/-- The steps to a place below the directory at a location come down to the last one, from that directory. -/
theorem reach_last (limited : Bool) (h : Location.Plain (loc ++ [name])) (hf : fs.find? loc = some (.directory es)) :
    ∃ p : Place, p.entry = .directory es ∧ p.pathLength + 1 + name.length < maxPath ∧
      reach limited fs.rootPlace (loc ++ [name]) = reach limited p [name] := by
  have hroot : fs.rootPlace.pathLength = 0 := rfl
  have hdeep := h.shallow
  have hs := (h.names name (by simp)).length_le
  rw [List.length_append, List.length_singleton] at hdeep
  obtain ⟨p, hp, hentry, -, hlen⟩ := reach_find limited [name] loc fs.rootPlace _ hf (fun _ => Entry.noConfusion)
    (fun n hm => h.names n (List.mem_append_left _ hm)) (fun _ => by omega)
  exact ⟨p, hentry, by omega, hp⟩

theorem locate_pathOf (h : loc.Plain) : fs.locate (pathOf loc) = follow fs false maxLinks fs.rootPlace loc := by
  have hlength : (pathOf loc).length ≤ 256 * loc.length :=
    length_pathOf_le h.some_ fun name hn => (h.names name hn).short
  have hcheck : checkPath (pathOf loc) = .ok () :=
    checkPath_eq_ok_iff.2 ⟨pathOf_ne_nil loc, h.ended, Nat.lt_of_le_of_lt hlength h.shallow⟩
  unfold locate start
  rw [hcheck, startIn_pathOf, h.steps]
  rfl

/-- Nothing stands under a name that a directory does not hold. -/
theorem look_missing (h : Location.Plain (loc ++ [name])) (hf : fs.find? loc = some (.directory es))
    (hl : es.lookup name = none) : fs.look (pathOf (loc ++ [name])) = .error (.system SystemError.noEntry) := by
  obtain ⟨p, hentry, hlen, hp⟩ := reach_last false h hf
  have hfollow : follow fs false maxLinks fs.rootPlace (loc ++ [name]) = .error (.system SystemError.noEntry) := by
    rw [follow.eq_def, hp, reach_name hentry (h.names name (by simp)) (fun _ => hlen), hl]
  unfold look
  rw [locate_pathOf h, hfollow]
  rfl

/-- A text is read from a file that holds it. -/
theorem textContent_of_look {path : RawPath} {text : String} (h : fs.look path = .ok (.file (ofString text))) :
    fs.textContent path = .ok text := by
  have hcontent : fs.content path = .ok (ofString text) := by
    unfold content
    rw [h]
    rfl
  simp only [textContent, hcontent, bind, Except.bind, text?_ofString]
  rfl

theorem look_of_textContent {path : RawPath} {text : String} (h : fs.textContent path = .ok text) :
    ∃ bytes, fs.look path = .ok (.file bytes) := by
  unfold textContent content at h
  cases hl : fs.look path with
  | error e =>
    rw [hl] at h
    cases h
  | ok e =>
    rw [hl] at h
    cases e with
    | file bytes => exact ⟨bytes, rfl⟩
    | directory es => cases h
    | link target => cases h

end FileSystem

end UsbInventory
