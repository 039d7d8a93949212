import Warrant.Key.Encoding

namespace Warrant

namespace Der

variable {tag n : UInt8} {contents rest : Bytes}

theorem element?_cons (known : isTag tag = true) (short : n < 0x80)
    (length : contents.length = n.toNat) :
    element? (tag :: n :: (contents ++ rest)) = some (⟨tag, contents⟩, rest) := by
  have read : length? (n :: (contents ++ rest)) = some (n.toNat, contents ++ rest) := by
    rw [length?, if_pos short]
  rw [element?, if_pos known]
  simp only [read]
  simp [← length]

theorem single?_cons (known : isTag tag = true) (short : n < 0x80)
    (length : contents.length = n.toNat) :
    single? (tag :: n :: contents) = some ⟨tag, contents⟩ := by
  have read := @element?_cons tag n contents [] known short length
  rw [List.append_nil] at read
  rw [single?, read]

end Der

namespace PublicKey

variable [Scheme] {encoded : Bytes} {key : PublicKey}

theorem encode_of_decode? (decoded : decode? encoded = some key) : encoded = key.encode := by
  unfold decode? ofBytes? at decoded
  split at decoded
  · next front =>
    split at decoded
    · split at decoded
      · cases decoded
        rw [encode, ← front, List.take_append_drop]
      · contradiction
    · contradiction
  · contradiction

theorem encode_of_read (read : read encoded = .ok key) : encoded = key.encode := by
  unfold PublicKey.read at read
  split at read
  · next decoded =>
    cases read
    exact encode_of_decode? decoded
  · contradiction

end PublicKey

namespace PrivateKey

open Der

theorem publicKeyField?_bits {bits : Bytes} (length : bits.length = 32) :
    publicKeyField? (0x81 :: 0x21 :: 0x00 :: bits) = some (some bits) := by
  have element := @element?_cons 0x81 0x21 (0 :: bits) [] (by decide) (by decide) (by simp [length])
  rw [List.append_nil] at element
  have elements : elements? (0x81 :: 0x21 :: 0x00 :: bits) = some [⟨0x81, 0 :: bits⟩] := by
    simp [elements?, elementsUpTo, element]
  have number : Element.contextNumber? ⟨0x81, 0 :: bits⟩ = some 1 := by
    simp [Element.contextNumber?]
  have primitive : Element.isConstructed ⟨0x81, 0 :: bits⟩ = false := by
    simp only [Element.isConstructed]
    decide
  simp [publicKeyField?, elements, number, primitive]

theorem decode?_encode [Scheme] (key : PrivateKey) : decode? key.encode = some key := by
  have whole : single? key.encode =
      some ⟨0x30, header 1 ++ (key.seed ++ 0x81 :: 0x21 :: 0x00 :: key.publicKey.bytes)⟩ :=
    single?_cons (by decide) (by decide)
      (by simp [header, key.length_seed, key.publicKey.length_bytes])
  have field := publicKeyField?_bits key.publicKey.length_bytes
  rw [decode?, whole]
  simp [header, key.length_seed, field, PrivateKey.ofBytes?]

end PrivateKey

end Warrant
