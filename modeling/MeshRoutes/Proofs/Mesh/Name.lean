import Mathlib.Data.List.Basic
import MeshRoutes.Mesh.Name

/-!
# Names of objects

The name of an object has small letters, digits and dashes, begins with a letter and is not too
long. What a digest is written with is always such a name; what a guid is written with is one if the
guid is.

* `IsObjectName`: the names of at most a given length.
* `virtualServiceName_isObjectName`: virtual services have such names.
* `isObjectName_serviceName_iff`: which guids give services such names.
-/

namespace MeshRoutes

/-- The greatest length of the name of an object. -/
def longestObjectName : Nat := 253

/-- The greatest length of the name of a service, which is a label of a domain name. -/
def longestServiceName : Nat := 63

/-- Whether a character may stand in the name of an object. -/
def isNameChar (c : Char) : Bool := c.isLower || c.isDigit || c == '-'

/-- Whether a text is the name of an object, of at most the given length: small letters, digits and
dashes behind a small letter. -/
structure IsObjectName (longest : Nat) (name : String) : Prop where
  chars : name.toList.all isNameChar = true
  first : name.toList.head?.any Char.isLower = true
  length_le : name.length ≤ longest

instance (longest : Nat) (name : String) : Decidable (IsObjectName longest name) :=
  decidable_of_iff (name.toList.all isNameChar = true ∧
      name.toList.head?.any Char.isLower = true ∧ name.length ≤ longest)
    ⟨fun parts => ⟨parts.1, parts.2.1, parts.2.2⟩, fun name => ⟨name.1, name.2, name.3⟩⟩

/-! ## Digests -/

namespace Sha256

theorem length_digest (message : List UInt8) : (digest message).length = 32 := rfl

theorem isNameChar_hexDigit : ∀ n < 16, isNameChar (Text.hexDigit n) = true := by decide

theorem isNameChar_hexByte (byte : UInt8) : (hexByte byte).all isNameChar = true := by
  have byte_lt := byte.toNat_lt
  rw [hexByte, List.all_cons, List.all_cons, List.all_nil,
    isNameChar_hexDigit _ (Nat.div_lt_of_lt_mul byte_lt),
    isNameChar_hexDigit _ (Nat.mod_lt _ (by omega))]
  rfl

theorem length_hex (text : String) : (hex text).length = 64 := by
  have two (bytes : List UInt8) : (bytes.flatMap hexByte).length = 2 * bytes.length := by
    simp [List.length_flatMap, hexByte, Nat.mul_comm]
  rw [hex, String.length_ofList, two, length_digest]

theorem isNameChar_hex (text : String) : (hex text).toList.all isNameChar = true := by
  rw [hex, String.toList_ofList, List.all_flatMap]
  exact List.all_eq_true.2 fun byte _ => isNameChar_hexByte byte

end Sha256

/-! ## Names -/

theorem serviceName_inj {a b : String} (same : serviceName a = serviceName b) : a = b :=
  (String.append_right_inj _).1 same

theorem length_virtualServiceName (fqdn : String) : (virtualServiceName fqdn).length = 67 := by
  rw [virtualServiceName, String.length_append, Sha256.length_hex]
  rfl

/-- A virtual service may have its name, whatever domain name it serves. -/
theorem virtualServiceName_isObjectName (fqdn : String) :
    IsObjectName longestObjectName (virtualServiceName fqdn) := by
  refine ⟨?_, ?_, ?_⟩
  · rw [virtualServiceName, String.toList_append, List.all_append, Sha256.isNameChar_hex]
    rfl
  · rw [virtualServiceName, String.toList_append]
    rfl
  · rw [length_virtualServiceName, longestObjectName]
    omega

/-- A service may have its name exactly if the guid has the characters of a name and is two shorter
than the longest. -/
theorem isObjectName_serviceName_iff {guid : String} :
    IsObjectName longestServiceName (serviceName guid) ↔
      guid.toList.all isNameChar = true ∧ guid.length ≤ 61 := by
  have chars : (serviceName guid).toList.all isNameChar = guid.toList.all isNameChar := by
    rw [serviceName, String.toList_append, List.all_append]
    rfl
  have first : (serviceName guid).toList.head?.any Char.isLower = true := by
    rw [serviceName, String.toList_append]
    rfl
  have length : (serviceName guid).length = 2 + guid.length := String.length_append ..
  constructor
  · intro name
    have length_le := name.length_le
    rw [length, longestServiceName] at length_le
    exact ⟨chars ▸ name.chars, by omega⟩
  · intro guid_fits
    refine ⟨chars.trans guid_fits.1, first, ?_⟩
    rw [length, longestServiceName]
    omega

end MeshRoutes
