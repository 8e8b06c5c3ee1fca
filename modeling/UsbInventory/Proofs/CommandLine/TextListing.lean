/-
Listings for people. A line begins with words that hold neither blanks nor ends of line, and ends with the node path as
it is. A path that holds an end of line therefore takes more than one line, and one that goes on after it like another
line passes for two identities. Such forged paths are all that is in the way: without them a listing is that of no other
identities, unless their own paths are forged, and then these are fewer.
-/
import UsbInventory.Proofs.CommandLine.Listing
import UsbInventory.Proofs.Filter.GroupIds
import UsbInventory.Proofs.Number.Decimal
import UsbInventory.Proofs.Pass.Registration

namespace UsbInventory

/-! ## Words -/

/-- Whether a text is letters and digits of ASCII only. -/
def Text.Plain (cs : List Char) : Prop := ∀ c ∈ cs, c.isAlphanum = true

instance (cs : List Char) : Decidable (Text.Plain cs) := List.decidableBAll _ cs

theorem Text.Plain.notMem {cs : List Char} (h : Plain cs) {mark : Char} (hmark : mark.isAlphanum = false) :
    mark ∉ cs := by
  intro hm
  rw [h mark hm] at hmark
  cases hmark

theorem Numeral.Spells.plain {base n : Nat} {cs : List Char} (h : Spells base n cs) (hbase : base ≤ 16) :
    Text.Plain cs := by
  intro c hc
  obtain ⟨digit, hdigit, is⟩ := h.digit_of_mem hc
  have hall : Text.Plain "0123456789abcdefABCDEF".toList := by decide
  exact hall c (mem_of_isDigit (by omega) is)

theorem Text.spells_decimalPadded (width n : Nat) : Numeral.Spells 10 n (decimalPadded width n).toList := by
  rw [decimalPadded, String.toList_ofList, Decimal.toString_toList]
  exact (Numeral.spells_toDigits (by decide) n).zeros _

theorem Text.spells_hexPadded (width n : Nat) : Numeral.Spells 16 n (hexPadded width n).toList := by
  rw [hexPadded, String.toList_ofList]
  exact (spells_hexDigits n).zeros _

theorem Text.decimalPadded_inj {width m n : Nat} (h : decimalPadded width m = decimalPadded width n) : m = n := by
  have hm := spells_decimalPadded width m
  rw [h] at hm
  exact (spells_decimalPadded width n).unique hm (by decide)

theorem DeviceSpeed.name_injective : Function.Injective name := by
  intro s t h
  cases s <;> cases t <;> first | rfl | exact absurd h (by decide)

namespace DeviceIdentity

/-- The words in front of the node path. -/
def words (d : DeviceIdentity) : List (List Char) :=
  ["Bus".toList, (Text.decimalPadded 3 d.bus.toNat).toList, "Device".toList,
    (Text.decimalPadded 3 d.address.toNat).toList, "Session".toList, d.session.display.toList, "Speed".toList,
    d.speed.name.toList, "Configs".toList, (toString d.numConfigs.toNat).toList, "Node".toList]

/-- What stands in front of the node path: the words with a blank after each. -/
def heading (d : DeviceIdentity) : List Char := Text.endedBy ' ' d.words

theorem toList_textLine (d : DeviceIdentity) : d.textLine.toList = d.heading ++ d.nodePath.chars := by
  have htext : ∀ s : String, toString s = s := fun _ => rfl
  simp [textLine, heading, words, NodePath.text, htext]

/-- The words are letters and digits. -/
theorem words_plain (d : DeviceIdentity) : ∀ word ∈ d.words, Text.Plain word := by
  have hdisplay : Text.Plain d.session.display.toList := by
    have hmark : Text.Plain "0x".toList := by decide
    rw [SessionId.display, String.toList_append]
    exact List.forall_mem_append.2 ⟨hmark, (Text.spells_hexPadded 4 _).plain (by decide)⟩
  have hspeed : Text.Plain d.speed.name.toList := by cases d.speed <;> decide
  have hconfigs : Text.Plain (toString d.numConfigs.toNat).toList := by
    rw [Decimal.toString_toList]
    exact (Numeral.spells_toDigits (by decide) _).plain (by decide)
  have hdecimal : ∀ n, Text.Plain (Text.decimalPadded 3 n).toList := fun n =>
    (Text.spells_decimalPadded 3 n).plain (by decide)
  simp only [words, List.forall_mem_cons]
  exact ⟨by decide, hdecimal _, by decide, hdecimal _, by decide, hdisplay, by decide, hspeed, by decide, hconfigs,
    by decide, by simp⟩

theorem notMem_words (d : DeviceIdentity) {mark : Char} (hmark : mark.isAlphanum = false) :
    ∀ word ∈ d.words, mark ∉ word := fun word hword => (d.words_plain word hword).notMem hmark

/-- The words tell everything but the node path. -/
theorem eq_of_words {d e : DeviceIdentity} (h : e.words = d.words) : e = { d with nodePath := e.nodePath } := by
  simp only [words, List.cons.injEq, String.toList_inj, true_and, and_true] at h
  obtain ⟨hbus, haddress, -, hspeed, hconfigs⟩ := h
  have hbus : e.bus = d.bus := UInt8.toNat_inj.1 (Text.decimalPadded_inj hbus)
  have haddress : e.address = d.address := UInt8.toNat_inj.1 (Text.decimalPadded_inj haddress)
  have hspeed : e.speed = d.speed := DeviceSpeed.name_injective hspeed
  have hconfigs : e.numConfigs = d.numConfigs := by
    have hdigits := congrArg String.toList hconfigs
    rw [Decimal.toString_toList, Decimal.toString_toList] at hdigits
    exact UInt8.toNat_inj.1 (Decimal.toDigits_inj hdigits)
  cases d
  cases e
  simp_all

theorem length_words (d : DeviceIdentity) : d.words.length = 11 := rfl

/-- What follows two headings in one text is the same, and so are their words. -/
theorem heading_append_inj {d e : DeviceIdentity} {rest rest' : List Char}
    (h : e.heading ++ rest' = d.heading ++ rest) : e.words = d.words ∧ rest' = rest := by
  have hblank : ∀ d : DeviceIdentity, ∀ word ∈ d.words, ' ' ∉ word := fun d => d.notMem_words (by decide)
  unfold heading at h
  exact Text.endedBy_append_inj (hblank d) (hblank e) (e.length_words.trans d.length_words.symm) h

theorem newline_notMem_heading (d : DeviceIdentity) : '\n' ∉ d.heading := by
  intro h
  obtain ⟨word, hword, hm⟩ := List.mem_flatMap.1 h
  rcases List.mem_append.1 hm with hm | hm
  · exact d.notMem_words (by decide) word hword hm
  · exact absurd hm (by decide)

end DeviceIdentity

/-! ## Texts of lines -/

/-- A mark in a text stands behind a front that does not hold it. -/
theorem Text.eq_append_of_notMem {α : Type} {mark : α} {front rest before after : List α} (h : mark ∉ front)
    (htext : front ++ rest = before ++ mark :: after) :
    ∃ tail, before = front ++ tail ∧ rest = tail ++ mark :: after := by
  rcases List.append_eq_append_iff.1 htext with ⟨tail, hbefore, hrest⟩ | ⟨tail, hfront, htail⟩
  · exact ⟨tail, hbefore, hrest⟩
  · cases tail with
    | nil => exact ⟨[], by simpa using hfront.symm, by simpa using htail.symm⟩
    | cons c tail =>
      obtain ⟨rfl, -⟩ := List.cons.inj htail
      exact absurd (hfront ▸ List.mem_append_right before List.mem_cons_self) h

/-- Two fronts that end at a mark in one text are the same, or the longer one goes on behind the mark of the other. -/
theorem Text.ended_cases {α : Type} {mark : α} {front rest front' rest' : List α}
    (h : front ++ mark :: rest = front' ++ mark :: rest') :
    (front = front' ∧ rest = rest') ∨ (∃ more, front = front' ++ mark :: more ∧ rest' = more ++ mark :: rest) ∨
      ∃ more, front' = front ++ mark :: more ∧ rest = more ++ mark :: rest' := by
  rcases List.append_eq_append_iff.1 h with ⟨more, rfl, hmore⟩ | ⟨more, rfl, hmore⟩
  · cases more with
    | nil => exact .inl ⟨by simp, by simpa using hmore⟩
    | cons c more =>
      obtain ⟨rfl, hrest⟩ := List.cons.inj hmore
      exact .inr (.inr ⟨more, rfl, hrest⟩)
  · cases more with
    | nil => exact .inl ⟨by simp, by simpa using hmore.symm⟩
    | cons c more =>
      obtain ⟨rfl, hrest⟩ := List.cons.inj hmore
      exact .inr (.inl ⟨more, rfl, hrest⟩)

namespace DeviceIdentity

/-- The text of the lines of some identities. -/
def linesOf (devices : List DeviceIdentity) : List Char := Text.endedBy '\n' (devices.map fun d => d.textLine.toList)

theorem linesOf_cons (d : DeviceIdentity) (devices : List DeviceIdentity) :
    linesOf (d :: devices) = d.heading ++ (d.nodePath.chars ++ '\n' :: linesOf devices) := by
  simp [linesOf, toList_textLine]

theorem linesOf_append (front back : List DeviceIdentity) :
    linesOf (front ++ back) = linesOf front ++ linesOf back := by
  simp [linesOf]

/-- A text of lines up to any end of line begins with the line of an identity. -/
theorem exists_line_of_linesOf {devices : List DeviceIdentity} {before after : List Char}
    (h : linesOf devices = before ++ '\n' :: after) : ∃ d : DeviceIdentity, before = d.textLine.toList := by
  cases devices with
  | nil => simp [linesOf] at h
  | cons d devices =>
    rw [linesOf_cons] at h
    -- the end of line stands behind the heading, and the path begins with a slash
    obtain ⟨tail, rfl, htail⟩ := Text.eq_append_of_notMem d.newline_notMem_heading h
    obtain ⟨path, hpath⟩ := List.head?_eq_some_iff.1 d.nodePath.absolute
    cases tail with
    | nil => simp [hpath] at htail
    | cons c tail =>
      obtain ⟨rfl, -⟩ : '/' = c ∧ _ := by simpa [hpath] using htail
      exact ⟨{ d with nodePath := ⟨'/' :: tail, rfl⟩ }, by rw [toList_textLine]; rfl⟩

end DeviceIdentity

/-! ## Forged paths -/

theorem NodePath.ext {p q : NodePath} (h : p.chars = q.chars) : p = q := by
  cases p
  cases q
  simp_all

/-- Whether a path goes on like another line after an end of line. -/
def NodePath.Forged (p : NodePath) : Prop :=
  ∃ (first : List Char) (d : DeviceIdentity), p.chars = first ++ '\n' :: d.textLine.toList

namespace DeviceIdentity

/-- A text of lines that starts within the lines of identities without forged paths starts where a line of them does. -/
theorem exists_linesOf_suffix {devices others : List DeviceIdentity} {before : List Char}
    (unforged : ∀ d ∈ devices, ¬ d.nodePath.Forged) (h : linesOf devices = before ++ '\n' :: linesOf others) :
    ∃ front back, devices = front ++ back ∧ front ≠ [] ∧ linesOf back = linesOf others := by
  induction devices generalizing before with
  | nil => simp [linesOf] at h
  | cons d devices ih =>
    obtain ⟨hd, hrest⟩ := List.forall_mem_cons.1 unforged
    rw [linesOf_cons] at h
    -- where the text starts is compared with where the path of d ends
    obtain ⟨tail, rfl, htail⟩ := Text.eq_append_of_notMem d.newline_notMem_heading h
    rcases Text.ended_cases htail with ⟨-, hsame⟩ | ⟨more, hpath, hmore⟩ | ⟨more, -, hmore⟩
    · exact ⟨[d], devices, rfl, by simp, hsame⟩
    · -- the text starts within the path of d, and a line begins there
      obtain ⟨e, hline⟩ := exists_line_of_linesOf hmore
      rw [hline] at hpath
      exact (hd ⟨tail, e, hpath⟩).elim
    · obtain ⟨front, back, rfl, -, hback⟩ := ih hrest hmore
      exact ⟨d :: front, back, rfl, by simp, hback⟩

theorem linesOf_eq_nil_iff {devices : List DeviceIdentity} : linesOf devices = [] ↔ devices = [] := by
  cases devices <;> simp [linesOf]

/-- Identities without forged paths are the only ones with their lines, or else the most. -/
theorem eq_or_length_lt_of_linesOf {devices others : List DeviceIdentity}
    (unforged : ∀ d ∈ devices, ¬ d.nodePath.Forged) (h : linesOf others = linesOf devices) :
    others = devices ∨ others.length < devices.length := by
  -- on the number of identities, since one path of the others may take in any number of lines at once
  induction hlength : devices.length using Nat.strong_induction_on generalizing devices others with
  | _ n ih =>
    subst hlength
    cases devices with
    | nil => exact .inl (linesOf_eq_nil_iff.1 h)
    | cons d devices =>
      obtain ⟨hd, hrest⟩ := List.forall_mem_cons.1 unforged
      cases others with
      | nil => exact .inr (by simp)
      | cons e others =>
        rw [linesOf_cons, linesOf_cons] at h
        obtain ⟨hwords, htail⟩ := heading_append_inj h
        rcases Text.ended_cases htail with ⟨hpath, hsame⟩ | ⟨more, -, hmore⟩ | ⟨more, hpath, hmore⟩
        · have hfirst : e = d := by
            rw [eq_of_words hwords, NodePath.ext hpath]
          rcases ih devices.length (by simp) hrest hsame rfl with rfl | hlt
          · exact .inl (by rw [hfirst])
          · exact .inr (by simpa using hlt)
        · -- the path of e takes in lines of identities behind d
          obtain ⟨front, back, rfl, hfront, hback⟩ := exists_linesOf_suffix hrest hmore
          have hless : back.length < (d :: (front ++ back)).length := by
            simp only [List.length_cons, List.length_append]
            omega
          have hunforged : ∀ d ∈ back, ¬ d.nodePath.Forged := fun d hd => hrest d (List.mem_append_right front hd)
          have hle : others.length ≤ back.length := by
            rcases ih back.length hless hunforged hback.symm rfl with rfl | hlt <;> omega
          have hpos := List.length_pos_of_ne_nil hfront
          refine .inr ?_
          simp only [List.length_cons, List.length_append]
          omega
        · -- the path of d is cut short by a line, which only a forged path is
          obtain ⟨e', hline⟩ := exists_line_of_linesOf hmore
          rw [hline] at hpath
          exact (hd ⟨e.nodePath.chars, e', hpath⟩).elim

/-- An identity with a forged path has the lines of two. -/
theorem exists_linesOf_forged {d : DeviceIdentity} (h : d.nodePath.Forged) :
    ∃ first second : DeviceIdentity, linesOf [first, second] = linesOf [d] := by
  obtain ⟨path, second, hpath⟩ := h
  obtain ⟨rest, habsolute⟩ := List.head?_eq_some_iff.1 d.nodePath.absolute
  have hfirst : path.head? = some '/' := by
    cases path with
    | nil => simp [hpath] at habsolute
    | cons c path => simp_all
  refine ⟨{ d with nodePath := ⟨path, hfirst⟩ }, second, ?_⟩
  have hheading : heading { d with nodePath := ⟨path, hfirst⟩ } = d.heading := rfl
  simp [linesOf, toList_textLine, hheading, hpath]

end DeviceIdentity

/-! ## Listings -/

theorem listing_text_eq_iff {devices others : List DeviceIdentity} :
    OutputFormat.text.listing others = OutputFormat.text.listing devices ↔
      DeviceIdentity.linesOf others = DeviceIdentity.linesOf devices := by
  rw [← String.toList_inj, OutputFormat.toList_listing, OutputFormat.toList_listing]
  rfl

theorem splitOn_text_listing_iff {devices : List DeviceIdentity} :
    (OutputFormat.text.listing devices).toList.splitOn '\n' = devices.map (fun d => d.textLine.toList) ++ [[]] ↔
      ∀ d ∈ devices, '\n' ∉ d.nodePath.chars := by
  have hline : ∀ d : DeviceIdentity, '\n' ∈ d.textLine.toList ↔ '\n' ∈ d.nodePath.chars := by
    intro d
    rw [DeviceIdentity.toList_textLine, List.mem_append]
    exact or_iff_right d.newline_notMem_heading
  refine OutputFormat.splitOn_listing_iff.trans ?_
  simp only [DeviceIdentity.line, hline]

/-- A listing for people holds one line for each identity exactly if no node path holds an end of line. Other identities
have the same listing only if they are fewer, exactly if no node path is forged; so without forged paths on either side
the same listing is that of the same identities. -/
theorem text_listing_unambiguous_iff (devices : List DeviceIdentity) :
    ((OutputFormat.text.listing devices).toList.splitOn '\n' = devices.map (fun d => d.textLine.toList) ++ [[]] ↔
      ∀ d ∈ devices, '\n' ∉ d.nodePath.chars) ∧
    ((∀ d ∈ devices, ¬ d.nodePath.Forged) ↔
      ∀ others, OutputFormat.text.listing others = OutputFormat.text.listing devices →
        others = devices ∨ others.length < devices.length) ∧
    ∀ others, (∀ d ∈ devices, ¬ d.nodePath.Forged) → (∀ d ∈ others, ¬ d.nodePath.Forged) →
      OutputFormat.text.listing others = OutputFormat.text.listing devices → others = devices := by
  have hunique : ∀ {devices others : List DeviceIdentity}, (∀ d ∈ devices, ¬ d.nodePath.Forged) →
      OutputFormat.text.listing others = OutputFormat.text.listing devices →
      others = devices ∨ others.length < devices.length := fun unforged h =>
    DeviceIdentity.eq_or_length_lt_of_linesOf unforged (listing_text_eq_iff.1 h)
  refine ⟨splitOn_text_listing_iff, ⟨fun unforged others => hunique unforged, fun h d hd forged => ?_⟩, ?_⟩
  · -- the forged line is split in two
    obtain ⟨front, back, rfl⟩ := List.append_of_mem hd
    obtain ⟨first, second, hlines⟩ := DeviceIdentity.exists_linesOf_forged forged
    have hsame : DeviceIdentity.linesOf (front ++ ([first, second] ++ back)) =
        DeviceIdentity.linesOf (front ++ ([d] ++ back)) := by
      simp only [DeviceIdentity.linesOf_append, hlines]
    rcases h _ (listing_text_eq_iff.2 hsame) with heq | hlt
    · have := congrArg List.length heq
      simp at this
    · simp only [List.length_append, List.length_cons, List.length_nil] at hlt
      omega
  · intro others unforged unforged' h
    rcases hunique unforged h with heq | hlt
    · exact heq
    · rcases hunique unforged' h.symm with heq | hlt'
      · exact heq.symm
      · omega

/-! ## A forged path -/

/-- Whether some walk comes to a node path. -/
def NodePath.Walked (p : NodePath) : Prop :=
  ∃ (fs : FileSystem) (settings : DiscoverySettings) (tree : DeviceTree) (w : Walk),
    Walk.ofSettings settings fs.directories tree = .ok w ∧ p ∈ w.emitted

def firstDevice : DeviceIdentity := .ofParts 1 2 1 .full ⟨"/a@2".toList, by decide⟩

def secondDevice : DeviceIdentity := .ofParts 2 2 1 .full ⟨"/b@2".toList, by decide⟩

/-- The first device in a directory whose name goes on like the line of the second one. -/
def forgedDevice : DeviceIdentity :=
  .ofParts 1 2 1 .full
    ⟨"/a@2\nBus 002 Device 002 Session 0x0202 Speed full Configs 1 Node /b@2".toList, by decide⟩

/-- A namespace with three instances, whose witnesses lead to the nodes of these devices. -/
def forgingFiles : FileSystem :=
  let instanceOf (d : DeviceIdentity) : Entry :=
    .directory [(RawPath.ofString "devstat", .link (RawPath.ofString ("/devices" ++ d.nodePath.text ++ ":x")))]
  let group : Entry := .directory
    [(RawPath.ofString "0", instanceOf forgedDevice), (RawPath.ofString "1", instanceOf firstDevice),
      (RawPath.ofString "2", instanceOf secondDevice)]
  let devices : Entry := .directory
    [(RawPath.ofString "a@2:x", .file []), (RawPath.ofString "b@2:x", .file []),
      (RawPath.ofString "a@2\nBus 002 Device 002 Session 0x0202 Speed full Configs 1 Node ",
        .directory [(RawPath.ofString "b@2:x", .file [])])]
  ⟨.directory
    [(RawPath.ofString "dev", .directory [(RawPath.ofString "usb", .directory [(RawPath.ofString "a12.1", group)])]),
      (RawPath.ofString "devices", devices)], []⟩

theorem forgingFiles_walked : ∀ d ∈ [forgedDevice, firstDevice, secondDevice], d.nodePath.Walked := by
  have h : ((Walk.ofSettings {} forgingFiles.directories sampleTree).toOption.map fun w => w.emitted) =
      some ([forgedDevice, firstDevice, secondDevice].map (·.nodePath)) := by
    decide +kernel
  obtain ⟨w, hw, he⟩ := Option.map_eq_some_iff.1 h
  intro d hd
  refine ⟨forgingFiles, {}, sampleTree, w, ok_of_toOption hw, ?_⟩
  rw [he]
  exact List.mem_map_of_mem hd

/-- Not all identities that a walk can lead to are told apart by their listing, nor does each of them take one line. -/
theorem not_every_text_listing_unambiguous :
    (¬ ∀ devices others : List DeviceIdentity, (∀ d ∈ devices ++ others, d.nodePath.Walked) →
      OutputFormat.text.listing others = OutputFormat.text.listing devices → others = devices) ∧
    ¬ ∀ devices : List DeviceIdentity, (∀ d ∈ devices, d.nodePath.Walked) →
      (OutputFormat.text.listing devices).toList.splitOn '\n' = devices.map (fun d => d.textLine.toList) ++ [[]] := by
  constructor
  · intro h
    have heq := h [forgedDevice] [firstDevice, secondDevice] forgingFiles_walked (by decide +kernel)
    cases congrArg List.length heq
  · intro h
    have hwalked : ∀ d ∈ [forgedDevice], d.nodePath.Walked := fun d hd =>
      forgingFiles_walked d (List.mem_append_left [firstDevice, secondDevice] hd)
    have hnewline := splitOn_text_listing_iff.1 (h [forgedDevice] hwalked) forgedDevice List.mem_cons_self
    exact hnewline (by decide)

end UsbInventory
