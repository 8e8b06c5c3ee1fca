/-
What is added to a file system takes nothing away. A new entry is put into a slot, and every directory on the way to it
grows by it; what was below the root before is there afterwards, of the same kind. Making directories only fills slots
that are free.
-/
import UsbInventory.Proofs.Files.Locations
import UsbInventory.Proofs.Files.Names
import UsbInventory.Files.Edit

namespace UsbInventory

/-! ## Entries -/

namespace Entry

/-- Whether two entries are of the same kind, and links have the same target. -/
def SameKind : Entry → Entry → Prop
  | directory _, directory _ => True
  | file _, file _ => True
  | link target, link target' => target = target'
  | _, _ => False

theorem SameKind.refl (e : Entry) : e.SameKind e := by cases e <;> simp [SameKind]

theorem SameKind.trans {a b c : Entry} (hab : a.SameKind b) (hbc : b.SameKind c) : a.SameKind c := by
  cases a <;> cases b <;> cases c <;> simp_all [SameKind]

theorem SameKind.directory {es : List (RawPath × Entry)} {e : Entry} (h : (Entry.directory es).SameKind e) :
    ∃ es', e = .directory es' := by
  cases e <;> simp_all [SameKind]

theorem SameKind.link {target : RawPath} {e : Entry} (h : (Entry.link target).SameKind e) : e = .link target := by
  cases e <;> simp_all [SameKind]

/-- Whether all that is below an entry is below another one too, of the same kind. -/
def Grown (e e' : Entry) : Prop := ∀ loc x, e.find? loc = some x → ∃ x', e'.find? loc = some x' ∧ x.SameKind x'

theorem Grown.refl (e : Entry) : e.Grown e := fun _ x h => ⟨x, h, .refl x⟩

theorem Grown.trans {a b c : Entry} (hab : a.Grown b) (hbc : b.Grown c) : a.Grown c := by
  intro loc x hx
  obtain ⟨y, hy, hxy⟩ := hab loc x hx
  obtain ⟨z, hz, hyz⟩ := hbc loc y hy
  exact ⟨z, hz, hxy.trans hyz⟩

theorem grown_file (before after : List UInt8) : (file before).Grown (file after) := by
  rintro (_ | ⟨name, loc⟩) x hx
  · obtain rfl := Option.some.inj hx
    exact ⟨_, rfl, trivial⟩
  · cases hx

theorem lookup_put (name n : RawPath) (e : Entry) (es : List (RawPath × Entry)) :
    (put name e es).lookup n = if n = name then some e else es.lookup n := by
  have hhead : ∀ (old : RawPath × Entry) (more : List (RawPath × Entry)),
      (old :: more).lookup n = if n = old.1 then some old.2 else more.lookup n := by
    rintro ⟨key, old⟩ more
    by_cases h : n = key
    · simp [h]
    · have hbeq : (n == key) = false := by simpa using h
      simp [List.lookup_cons, h, hbeq]
  induction es with
  | nil => simp [put, hhead]
  | cons old es ih =>
    rw [put]
    by_cases hold : old.1 = name
    · rw [if_pos hold, hhead, hhead, hold]
      by_cases h : n = name <;> simp [h]
    · rw [if_neg hold, hhead, hhead, ih]
      by_cases h : n = name
      · simp [h, Ne.symm hold]
      · simp [h]

/-- A directory grows when an entry is put into it that has grown from the one that is there, if any. -/
theorem grown_put {name : RawPath} {e : Entry} {es : List (RawPath × Entry)}
    (h : ∀ old, es.lookup name = some old → old.Grown e) : (directory es).Grown (directory (put name e es)) := by
  rintro (_ | ⟨n, loc⟩) x hx
  · obtain rfl := Option.some.inj hx
    exact ⟨_, rfl, trivial⟩
  · obtain ⟨_, inner, ⟨⟩, hl, hf⟩ := find?_cons_eq_some hx
    by_cases hn : n = name
    · subst hn
      obtain ⟨x', hx', hkind⟩ := h inner hl loc x hf
      exact ⟨x', by rw [find?, lookup_put, if_pos rfl]; exact hx', hkind⟩
    · refine ⟨x, ?_, .refl x⟩
      rw [find?, lookup_put, if_neg hn, hl]
      exact hf

end Entry

/-! ## Places -/

namespace Place

/-- Whether a place is where the names on the way to it lead from the root. -/
inductive StandsIn (root : Entry) : Place → Prop
  | root : StandsIn root ⟨root, []⟩
  | enter {es : List (RawPath × Entry)} {above : List (RawPath × List (RawPath × Entry))} {name : RawPath} {e : Entry}
      (dir : StandsIn root ⟨.directory es, above⟩) (under : es.lookup name = some e) :
      StandsIn root ⟨e, (name, es) :: above⟩

theorem find?_directory (e : Entry) (name : RawPath) :
    e.find? [name] = match e with
      | .directory es => es.lookup name
      | _ => none := by
  cases e with
  | directory es => simp [Entry.find?]
  | file content => rfl
  | link target => rfl

theorem StandsIn.find? {root : Entry} {p : Place} (h : p.StandsIn root) : root.find? p.location = some p.entry := by
  induction h with
  | root => rfl
  | @enter es above name e dir under ih =>
    rw [location_cons name es e ⟨.directory es, above⟩, Entry.find?_append, ih, Option.bind_some, find?_directory]
    exact under

theorem StandsIn.up {root : Entry} {p : Place} (h : p.StandsIn root) : p.up.StandsIn root := by
  cases h with
  | root => exact .root
  | enter dir under => exact dir

theorem StandsIn.child {root : Entry} {p q : Place} {name : RawPath} (h : p.StandsIn root)
    (hq : p.enter? name = some q) : q.StandsIn root := by
  rcases p with ⟨entry, above⟩
  obtain ⟨es, e, rfl, hl, rfl⟩ := enter?_eq_some hq
  exact .enter h hl

/-- The entry at the end of a way is found there after it has become another. -/
theorem find?_rebuild (e : Entry) : ∀ above : List (RawPath × List (RawPath × Entry)),
    (rebuild e above).find? (location ⟨e, above⟩) = some e
  | [] => rfl
  | (name, es) :: above => by
    rw [location_cons name es e ⟨.directory (Entry.put name e es), above⟩, rebuild, Entry.find?_append,
      find?_rebuild (.directory (Entry.put name e es)) above, Option.bind_some, find?_directory]
    exact (Entry.lookup_put name name e es).trans (if_pos rfl)

/-- The root grows with the entry at the end of a way. -/
theorem StandsIn.grown_rebuild {root : Entry} {p : Place} (h : p.StandsIn root) {e : Entry} (he : p.entry.Grown e) :
    root.Grown (rebuild e p.above) := by
  induction h generalizing e with
  | root => exact he
  | @enter es above name old dir under ih =>
    refine ih (Entry.grown_put ?_)
    rintro _ hl
    obtain rfl := Option.some.inj (under.symm.trans hl)
    exact he

end Place

/-! ## Slots -/

namespace Slot

/-- The directory that a slot is in. -/
def place (s : Slot) : Place := ⟨.directory s.dir, s.above⟩

theorem of_ok {dir : Place} {last : Option RawPath} {noName : Int} {s : Slot} (h : Slot.of dir last noName = .ok s) :
    s.place = dir ∧ last = some s.name ∧ s.name ≠ [RawPath.dot] ∧ s.name ≠ [RawPath.dot, RawPath.dot] ∧
      s.name.length ≤ FileSystem.maxName := by
  rcases dir with ⟨entry, above⟩
  unfold Slot.of at h
  split at h
  · next es hes =>
    split at h
    · cases h
    · next name =>
      split at h
      · cases h
      · next hdots =>
        split at h
        · cases h
        · next hshort =>
          cases h
          obtain ⟨hdot, hup⟩ := not_or.1 hdots
          exact ⟨congrArg (Place.mk · above) hes.symm, rfl, hdot, hup, Nat.not_lt.1 hshort⟩
  · cases h

theorem grown_fill {root e : Entry} {s : Slot} (h : s.place.StandsIn root)
    (he : ∀ old, s.entry? = some old → old.Grown e) : root.Grown (s.fill e) :=
  h.grown_rebuild (Entry.grown_put he)

/-- What is put into a slot stands there. -/
theorem find?_fill (s : Slot) (e : Entry) : (s.fill e).find? (s.place.location ++ [s.name]) = some e := by
  have hdir := Place.find?_rebuild (.directory (Entry.put s.name e s.dir)) s.above
  have hway : s.place.location = Place.location ⟨.directory (Entry.put s.name e s.dir), s.above⟩ := rfl
  rw [fill, hway, Entry.find?_append, hdir, Option.bind_some, Place.find?_directory]
  exact (Entry.lookup_put s.name s.name e s.dir).trans (if_pos rfl)

end Slot

namespace FileSystem

/-! ## Where paths lead -/

theorem standsIn_workPlace (fs : FileSystem) : fs.workPlace.StandsIn fs.root :=
  Place.enterAll_induction .root fun _ hp => hp.child

/-- Paths lead to places that stand where the names on the way to them lead. -/
theorem keeps_standsIn (fs : FileSystem) : fs.Keeps (Place.StandsIn fs.root) :=
  ⟨.root, fs.standsIn_workPlace, fun hp _ _ he => hp.child he, fun hp => hp.up⟩

theorem standsIn_slot {fs : FileSystem} {path : RawPath} {noName : Int} {s : Slot} (h : fs.slot path noName = .ok s) :
    s.place.StandsIn fs.root := by
  unfold slot at h
  cases hc : checkPath path with
  | error e =>
    rw [hc] at h
    cases h
  | ok _ =>
    cases hd : fs.follow false maxLinks (fs.start path) (namesOf path).dropLast with
    | error e =>
      simp only [hc, hd] at h
      cases h
    | ok dir =>
      simp only [hc, hd] at h
      have hs : Slot.of dir (namesOf path).getLast? noName = .ok s := h
      rw [(Slot.of_ok hs).1]
      exact fs.keeps_standsIn.follow false _ _ _ dir (fs.keeps_standsIn.startIn fs.standsIn_workPlace path) hd

/-! ## Changes that add -/

/-- Whether a file system has all that another one has, and the same working directory. -/
structure Grown (fs fs' : FileSystem) : Prop where
  root : fs.root.Grown fs'.root
  workDir : fs'.workDir = fs.workDir

theorem Grown.refl (fs : FileSystem) : fs.Grown fs := ⟨.refl fs.root, rfl⟩

theorem Grown.trans {a b c : FileSystem} (hab : a.Grown b) (hbc : b.Grown c) : a.Grown c :=
  ⟨hab.root.trans hbc.root, hbc.workDir.trans hab.workDir⟩

theorem grown_makeDir {fs fs' : FileSystem} {path : RawPath} (h : fs.makeDir path = .ok fs') : fs.Grown fs' := by
  unfold makeDir at h
  cases hs : fs.slot path SystemError.alreadyExists with
  | error e =>
    rw [hs] at h
    cases h
  | ok s =>
    simp only [hs, bind, Except.bind] at h
    split at h
    · cases h
    · next hfree =>
      cases h
      refine ⟨Slot.grown_fill (standsIn_slot hs) fun old hold => ?_, rfl⟩
      rw [hold] at hfree
      exact absurd rfl hfree

theorem grown_ensureDir (fs : FileSystem) (path : RawPath) : fs.Grown (fs.ensureDir path).1 := by
  unfold ensureDir
  split
  · next h => exact grown_makeDir h
  · exact .refl fs

theorem grown_makeDirs (fs : FileSystem) : ∀ paths : List RawPath, fs.Grown (fs.makeDirs paths).1
  | [] => .refl fs
  | path :: above => by
    have ih := grown_makeDirs fs above
    unfold makeDirs
    split
    · exact .refl fs
    · split
      · next h => exact grown_makeDir h
      · split
        · split
          · next made _ h =>
            rw [h] at ih
            exact ih.trans (grown_ensureDir made path)
          · next h =>
            rw [h] at ih
            exact ih
        · exact grown_ensureDir fs path

/-- Making directories takes nothing away. -/
theorem grown_makeDirAll (fs : FileSystem) (path : RawPath) : fs.Grown (fs.makeDirAll path).1 :=
  fs.grown_makeDirs _

end FileSystem

end UsbInventory
