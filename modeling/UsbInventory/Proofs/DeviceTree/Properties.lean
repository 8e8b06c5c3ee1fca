/-
Properties of a node that is kept as a directory. A text that can be read under the name of a property gives its
values. Where the directory stands at the end of a path without links, the node opens, a file in it is a property with
the integers that its text lists, and what is not there is absent.
-/
import UsbInventory.DeviceTree.Snapshot
import UsbInventory.Proofs.Files.Locations

namespace UsbInventory

namespace Snapshot

/-! ## Look-ups -/

theorem isPropertyName_iff {name : String} : isPropertyName name = true ↔ name.toList ≠ [] ∧ '/' ∉ name.toList := by
  unfold isPropertyName
  simp

section Lookups

variable {fs : FileSystem} {dir : RawPath} {property : String}

theorem lookupIn_of_text {text : String} {vs : List Int} (hp : isPropertyName property = true)
    (ht : fs.textContent (dir.join (RawPath.ofString property)) = .ok text) (hv : parseValues text.toList = .ok vs) :
    lookupIn fs dir property = .values vs := by
  unfold lookupIn
  simp only [hp, ht, hv]
  rfl

theorem lookupIn_of_error {e : FileError} (ht : fs.textContent (dir.join (RawPath.ofString property)) = .error e) :
    ∃ cause, lookupIn fs dir property = .absent cause := by
  unfold lookupIn
  split
  · exact ⟨_, rfl⟩
  · rw [ht]
    exact ⟨_, rfl⟩

end Lookups

/-! ## Nodes -/

section Nodes

variable {fs : FileSystem} {loc : Location} {es : List (RawPath × Entry)} {property : String}

theorem lookupIn_missing (hd : loc.Plain) (h : Location.Plain (loc ++ [RawPath.ofString property]))
    (hf : fs.find? loc = some (.directory es)) (hl : es.lookup (RawPath.ofString property) = none) :
    ∃ cause, lookupIn fs (FileSystem.pathOf loc) property = .absent cause := by
  have hmissing : fs.textContent ((FileSystem.pathOf loc).join (RawPath.ofString property)) =
      .error (.system SystemError.noEntry) := by
    rw [hd.join (h.names _ (by simp)), FileSystem.textContent, FileSystem.content, FileSystem.look_missing h hf hl]
    rfl
  exact lookupIn_of_error hmissing

end Nodes

end Snapshot

end UsbInventory
