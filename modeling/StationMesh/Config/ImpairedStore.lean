import StationMesh.Config.Store

/-!
# Stores with defects

A store whose memory is partly broken, to see how a station copes: some fields cannot be written,
some cannot be read, and the image may be replaced by a run of equal bytes.
-/

namespace StationMesh.Config

/-- A store behind defects. -/
structure ImpairedStore (κ : Type) where
  store : κ
  /-- Fields that cannot be written. -/
  refused : List Field := []
  /-- Fields that read as nothing. -/
  blank : List Field := []
  /-- The length of the run of bytes that is handed out in place of the image. -/
  imageSize : Option Nat := none
deriving Repr

namespace ImpairedStore

variable {κ : Type} [Store κ]

instance : Store (ImpairedStore κ) where
  get field impaired :=
    if field ∈ impaired.blank then [] else Store.get field impaired.store
  set field value impaired :=
    if field ∈ impaired.refused then
      .error .checksumMismatch
    else
      match Store.set field value impaired.store with
      | .ok store => .ok { impaired with store }
      | .error error => .error error
  image impaired :=
    match impaired.imageSize with
    | some size => List.replicate size 0x49
    | none => Store.image impaired.store

end ImpairedStore

end StationMesh.Config
