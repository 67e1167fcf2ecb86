import NexsKernel.Capdl.Spec

/-!
# Filling frames

What the frames of a spec contain. `pack_spec_into_initial_task` (`packaging.rs`) resolves the parts that a frame is
filled with: the bytes of a part are copied to its range, and the rest of the frame stays zero.
-/

namespace NexsKernel.Capdl

abbrev Byte := BitVec 8

/-- The bytes of a part. `data` is the data of each segment of each program. -/
def FillContent.bytes (data : Nat → Nat → Option (List Byte)) : FillContent → Option (List Byte)
  | .elfContent elfId elfSegIdx start stop =>
    match data elfId elfSegIdx with
    | some bytes =>
      if start.toNat ≤ stop.toNat ∧ stop.toNat ≤ bytes.length then
        some ((bytes.drop start.toNat).take (stop.toNat - start.toNat))
      else none
    | none => none
  | .bytesContent bytes => some bytes

/-- `copy_from_slice`, to the range of a part. The two have the same length. -/
def copyEntry (data : Nat → Nat → Option (List Byte)) (frame : List Byte) (entry : FillEntry) : Option (List Byte) :=
  match entry.content.bytes data with
  | some bytes =>
    if entry.start.toNat + bytes.length = entry.stop.toNat ∧ entry.stop.toNat ≤ frame.length then
      some (frame.take entry.start.toNat ++ bytes ++ frame.drop entry.stop.toNat)
    else none
  | none => none

/-- A frame of `size` bytes. -/
def fillFrame (data : Nat → Nat → Option (List Byte)) (size : Nat) (init : List FillEntry) : Option (List Byte) :=
  init.foldlM (copyEntry data) (List.replicate size 0)

/-- What a frame is filled with. -/
def frameInit (c : Container) (frame : ObjectId) : Option (List FillEntry) :=
  match c.objects[frame]? with
  | some ⟨_, .frame _ _ init⟩ => some init
  | _ => none

/-- The bytes of a frame of a container. -/
def frameBytes (data : Nat → Nat → Option (List Byte)) (size : Nat) (c : Container) (frame : ObjectId) :
    Option (List Byte) :=
  match frameInit c frame with
  | some init => fillFrame data size init
  | none => none

lemma frameBytes_eq {data : Nat → Nat → Option (List Byte)} {size : Nat} {c : Container} {frame : ObjectId}
    {name : String} {sizeBits : Nat} {paddr : Option Sdf.Word} {init : List FillEntry}
    (h : c.objects[frame]? = some ⟨name, .frame sizeBits paddr init⟩) :
    frameBytes data size c frame = fillFrame data size init := by
  unfold frameBytes frameInit
  rw [h]

end NexsKernel.Capdl
