/-
What a run lists, in any format. A listing is a text of lines that are each ended, and splitting it at the ends of line
gives the lines back exactly if none of them holds such an end. Nothing else goes to the standard output of a scan: what
is logged and what is told does not mix with it.
-/
import Mathlib.Data.List.Forall2
import UsbInventory.CommandLine.Run

namespace UsbInventory

/-! ## Pieces that are ended -/

namespace Text

/-- The characters of some pieces with a mark after each. -/
def endedBy (mark : Char) (pieces : List (List Char)) : List Char := pieces.flatMap (· ++ [mark])

variable {mark : Char} {pieces : List (List Char)}

@[simp] theorem endedBy_nil : endedBy mark [] = [] := rfl

@[simp] theorem endedBy_cons (piece : List Char) (pieces : List (List Char)) :
    endedBy mark (piece :: pieces) = piece ++ mark :: endedBy mark pieces := by
  simp [endedBy]

@[simp] theorem endedBy_append (front back : List (List Char)) :
    endedBy mark (front ++ back) = endedBy mark front ++ endedBy mark back :=
  List.flatMap_append

/-- Pieces that do not hold the mark come back by splitting at it, whatever follows them. -/
theorem splitOn_endedBy_append (h : ∀ piece ∈ pieces, mark ∉ piece) (rest : List Char) :
    (endedBy mark pieces ++ rest).splitOn mark = pieces ++ rest.splitOn mark := by
  induction pieces with
  | nil => rfl
  | cons piece pieces ih =>
    simp only [List.forall_mem_cons] at h
    rw [endedBy_cons, List.append_assoc, List.cons_append, List.splitOn_append_cons_self_of_not_mem h.1, ih h.2]
    rfl

/-- No piece between marks holds the mark. -/
theorem notMem_of_mem_splitOn : ∀ (text : List Char), ∀ piece ∈ text.splitOn mark, mark ∉ piece
  | [], piece, h => by
    obtain rfl : piece = [] := by simpa using h
    simp
  | c :: text, piece, h => by
    -- a mark begins a new piece, any other character goes in front of the first one
    obtain ⟨first, others, hsplit⟩ := List.exists_cons_of_ne_nil (List.splitOn_ne_nil mark text)
    have hfirst : mark ∉ first := notMem_of_mem_splitOn text first (by simp [hsplit])
    have hothers : ∀ other ∈ others, mark ∉ other := fun other ho =>
      notMem_of_mem_splitOn text other (by simp [hsplit, ho])
    rw [List.splitOn_cons_eq_if_modifyHead, hsplit] at h
    by_cases hc : c = mark
    · simp only [hc, beq_self_eq_true, if_true, List.mem_cons] at h
      rcases h with rfl | rfl | ho
      · simp
      · exact hfirst
      · exact hothers piece ho
    · simp only [beq_iff_eq, hc, if_false, List.modifyHead_cons, List.mem_cons] at h
      rcases h with rfl | ho
      · simp [hfirst, Ne.symm hc]
      · exact hothers piece ho

/-- The pieces come back by splitting at the mark, with nothing after the last one, exactly if none holds the mark. -/
theorem splitOn_endedBy_eq_iff :
    (endedBy mark pieces).splitOn mark = pieces ++ [[]] ↔ ∀ piece ∈ pieces, mark ∉ piece := by
  constructor
  · intro h piece hpiece
    refine notMem_of_mem_splitOn (endedBy mark pieces) piece ?_
    rw [h]
    exact List.mem_append_left _ hpiece
  · intro h
    simpa using splitOn_endedBy_append h []

/-- A text is made in one way of a number of pieces that do not hold the mark and of what follows them. -/
theorem endedBy_append_inj {others : List (List Char)} {rest rest' : List Char}
    (h : ∀ piece ∈ pieces, mark ∉ piece) (h' : ∀ piece ∈ others, mark ∉ piece) (hlength : others.length = pieces.length)
    (htext : endedBy mark others ++ rest' = endedBy mark pieces ++ rest) : others = pieces ∧ rest' = rest := by
  have hsplit : others ++ rest'.splitOn mark = pieces ++ rest.splitOn mark := by
    rw [← splitOn_endedBy_append h, ← splitOn_endedBy_append h', htext]
  obtain ⟨hpieces, hrest⟩ := List.append_inj hsplit hlength
  -- a text is what it is split into, with the mark in between
  have hwhole : ∀ text : List Char, [mark].intercalate (text.splitOn mark) = text := fun text =>
    List.intercalate_splitOn mark
  exact ⟨hpieces, by rw [← hwhole rest', hrest, hwhole]⟩

end Text

/-! ## Listings -/

namespace OutputFormat

/-- A listing is its lines, each ended. -/
theorem toList_listing (format : OutputFormat) (devices : List DeviceIdentity) :
    (format.listing devices).toList = Text.endedBy '\n' (devices.map fun d => (d.line format).toList) := by
  simp [listing, Text.endedBy, String.toList_join, List.flatMap_map]

/-- A listing holds one line for each identity exactly if no identity's line holds an end of line. -/
theorem splitOn_listing_iff {format : OutputFormat} {devices : List DeviceIdentity} :
    (format.listing devices).toList.splitOn '\n' = devices.map (fun d => (d.line format).toList) ++ [[]] ↔
      ∀ d ∈ devices, '\n' ∉ (d.line format).toList := by
  rw [toList_listing, Text.splitOn_endedBy_eq_iff]
  simp

end OutputFormat

/-! ## The standard output -/

namespace CommandLine

/-- What an output puts on the standard output. -/
def Output.listed? : Output → Option String
  | .listing text => some text
  | .logged _ => none
  | .told _ => none

theorem listed?_logged (events : List Log.Event) : (events.map Output.logged).filterMap Output.listed? = [] := by
  simp [List.filterMap_map, Function.comp_def, Output.listed?]

theorem listed?_told (lines : List String) : (lines.map Output.told).filterMap Output.listed? = [] := by
  simp [List.filterMap_map, Function.comp_def, Output.listed?]

theorem stdout_eq (e : Ending) : e.stdout = String.join (e.output.filterMap Output.listed?) := by
  unfold Ending.stdout
  congr 2
  funext output
  cases output <;> rfl

/-- The identities that a scan with a configuration gets. -/
def scanned (world : World) (c : Configuration) : List DeviceIdentity :=
  match Backend.create c world.bus with
  | .error _ => []
  | .ok backend =>
    scanDevices (({} : Service).scan fun _ => ServedPass.ofEnumeration (backend.enumerate world)).2.1

/-- A scan prints the listing of the identities that it gets, and nothing besides. -/
theorem stdout_enumerate (env : Environment) (world : World) (c : Configuration) :
    (enumerate env world c).stdout = c.general.output.listing (scanned world c) := by
  unfold enumerate scanned
  cases Backend.create c world.bus with
  | error e =>
    simp [Ending.failed, stdout_eq, listed?_logged, listed?_told, OutputFormat.listing, -List.filterMap_map]
  | ok backend =>
    dsimp only
    split
    · next summary _ =>
      have htold : [Output.told (summaryText summary)].filterMap Output.listed? = [] := rfl
      simp [stdout_eq, listed?_logged, htold, Output.listed?, -List.filterMap_map]
    · simp [Ending.failed, stdout_eq, listed?_logged, listed?_told, Output.listed?, -List.filterMap_map]

end CommandLine

end UsbInventory
