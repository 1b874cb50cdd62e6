import MeshRoutes.Proofs.Digest.Rounds
import MeshRoutes.Proofs.Mesh.Name
import MeshRoutes.Proofs.Text.Bytes

/-!
# Names that hold a digest

A virtual service is named by the digest of its domain name, two digits for each byte. The digits
can be read back: domain names share a name exactly if they share a digest. No name of a service
begins like that.

* `textDigest`: the digest of a text, as the standard has it.
* `hex_inj`: texts with the same digits have the same digest.
* `virtualServiceName_encodes_digest`: what a name holds, and which names are the same.
-/

namespace MeshRoutes

/-- The 256 bits that the standard's hash makes of a text in UTF-8. -/
noncomputable def textDigest (text : String) : List Bool :=
  SecureHash.digest (SecureHash.ofBytes (textBytes text))

theorem textDigest_eq (text : String) :
    textDigest text = SecureHash.ofBytes (Sha256.digest (textBytes text)) :=
  (SecureHash.ofBytes_digest _).symm

theorem toBytes_textDigest (text : String) :
    SecureHash.toBytes (textDigest text) = Sha256.digest (textBytes text) := by
  rw [textDigest_eq, SecureHash.toBytes_ofBytes]

/-! ## Digits -/

/-- A byte in base sixteen with small letters, with a zero in front of a single digit. -/
def hexPair (byte : UInt8) : List Char := (Nat.toDigits 16 byte.toNat).leftpad 2 '0'

theorem hexByte_eq (byte : UInt8) : Sha256.hexByte byte = hexPair byte := by
  have below : ∀ n < 256, [Text.hexDigit (n / 16), Text.hexDigit (n % 16)] =
      (Nat.toDigits 16 n).leftpad 2 '0' := by
    decide +kernel
  exact below byte.toNat byte.toNat_lt

theorem hex_eq (text : String) :
    Sha256.hex text =
      String.ofList ((SecureHash.toBytes (textDigest text)).flatMap hexPair) := by
  rw [toBytes_textDigest, ← funext hexByte_eq]
  rfl

theorem hexDigit_inj : ∀ m < 16, ∀ n < 16, Text.hexDigit m = Text.hexDigit n → m = n := by decide

theorem hexByte_inj {a b : UInt8} (same : Sha256.hexByte a = Sha256.hexByte b) : a = b := by
  have a_lt := a.toNat_lt
  have b_lt := b.toNat_lt
  rw [Sha256.hexByte, Sha256.hexByte, List.cons.injEq, List.cons.injEq] at same
  have high := hexDigit_inj _ (by omega) _ (by omega) same.1
  have low := hexDigit_inj _ (by omega) _ (by omega) same.2.1
  rw [← UInt8.toNat_inj]
  omega

theorem flatMap_hexByte_inj {a b : List UInt8}
    (same : a.flatMap Sha256.hexByte = b.flatMap Sha256.hexByte) : a = b := by
  induction a generalizing b with
  | nil =>
    cases b with
    | nil => rfl
    | cons head tail => exact absurd same (List.cons_ne_nil _ _).symm
  | cons byte a ih =>
    cases b with
    | nil => exact absurd same (List.cons_ne_nil _ _)
    | cons head tail =>
      rw [List.flatMap_cons, List.flatMap_cons] at same
      -- every byte has two digits, so the digits of the first bytes are cut off alike
      obtain ⟨first, rest⟩ := List.append_inj same rfl
      rw [hexByte_inj first, ih rest]

/-- Texts with the same digits have the same digest. -/
theorem hex_inj {a b : String} : Sha256.hex a = Sha256.hex b ↔ textDigest a = textDigest b := by
  constructor
  · intro same
    have digits := flatMap_hexByte_inj (String.ofList_injective same)
    rw [textDigest_eq, textDigest_eq, textBytes, digits, textBytes]
  · intro same
    rw [hex_eq, hex_eq, same]

/-! ## Names -/

theorem serviceName_ne_virtualServiceName (guid fqdn : String) :
    serviceName guid ≠ virtualServiceName fqdn := by
  intro same
  have chars := congrArg String.toList same
  rw [serviceName, virtualServiceName, String.toList_append, String.toList_append] at chars
  exact absurd (List.cons.inj chars).1 (by decide)

/-- The name of a virtual service is a mark and the bytes of the standard's hash of the domain name
in base sixteen, whatever the domain name. It tells the hash, that of a service tells the guid, and
it tells a virtual service from a service. -/
theorem virtualServiceName_encodes_digest :
    (∀ fqdn : String,
      virtualServiceName fqdn =
          "vs-" ++ String.ofList ((SecureHash.toBytes (textDigest fqdn)).flatMap hexPair) ∧
        (SecureHash.toBytes (textDigest fqdn)).length = 32 ∧
        (virtualServiceName fqdn).length = 67) ∧
      (∀ a b : String, virtualServiceName a = virtualServiceName b ↔ textDigest a = textDigest b) ∧
      (∀ a b : String, serviceName a = serviceName b ↔ a = b) ∧
      ∀ guid fqdn : String, serviceName guid ≠ virtualServiceName fqdn := by
  refine ⟨fun fqdn => ⟨?_, ?_, length_virtualServiceName fqdn⟩, fun a b => ?_, fun a b => ?_,
    serviceName_ne_virtualServiceName⟩
  · rw [virtualServiceName, hex_eq]
  · rw [toBytes_textDigest, Sha256.length_digest]
  · rw [virtualServiceName, virtualServiceName, String.append_right_inj, hex_inj]
  · exact ⟨serviceName_inj, congrArg serviceName⟩

end MeshRoutes
