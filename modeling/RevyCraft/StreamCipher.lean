/-
  RevyCraft/StreamCipher.lean
  ===========================
  **The stream cipher over a whole connection** (`MinecraftStreamCipher` of
  `transport.rs`): both ends cut the stream as they like, and either may hand its
  cipher over to another process in between (`snapshot` and `restore`).

  Both ends shift the ciphertext into their register, so that the register is a
  function of the secret and of the ciphertext so far (`register_eq`), and that is
  all the next key byte depends on.
-/
import RevyCraft.Streams
import RevyCraft.TransportWriter

namespace RevyCraft.Transport

open Streams

namespace MinecraftStreamCipher

variable (aes : Block → Block → Block)

/-! ### Over a cut -/

theorem applyEncrypt_sequential :
    Sequential fun cipher : MinecraftStreamCipher => cipher.applyEncrypt aes where
  nil _ := rfl
  append cipher first second := by
    induction first generalizing cipher with
    | nil => simp [applyEncrypt]
    | cons byte first ih => simp [applyEncrypt, ih]

theorem applyDecrypt_sequential :
    Sequential fun cipher : MinecraftStreamCipher => cipher.applyDecrypt aes where
  nil _ := rfl
  append cipher first second := by
    induction first generalizing cipher with
    | nil => simp [applyDecrypt]
    | cons byte first ih => simp [applyDecrypt, ih]

/-- The cipher of the process that takes the connection over. -/
def handOver (cipher : MinecraftStreamCipher) : MinecraftStreamCipher := restore cipher.snapshot

/-- The ciphertext of a stream, with the cipher at its end. -/
def encryptStream (cipher : MinecraftStreamCipher) (stretches : List (Stretch UInt8)) :
    MinecraftStreamCipher × List UInt8 :=
  transform (fun cipher => cipher.applyEncrypt aes) handOver cipher stretches

def decryptStream (cipher : MinecraftStreamCipher) (stretches : List (Stretch UInt8)) :
    MinecraftStreamCipher × List UInt8 :=
  transform (fun cipher => cipher.applyDecrypt aes) handOver cipher stretches

/-! ### The register -/

@[simp] theorem shift_toList (cipher : MinecraftStreamCipher) (ciphertext : UInt8) :
    (cipher.shift ciphertext).shiftRegister.toList =
      cipher.shiftRegister.toList.tail ++ [ciphertext] := by
  apply List.ext_getElem
  · simp
  · intro i hi _
    simp only [Vector.length_toList] at hi
    rw [List.getElem_append]
    by_cases h : i + 1 < 16
    · simp [shift, h, show i < 15 by omega, Vector.get]
    · simp [shift, h, show ¬ i < 15 by omega]

theorem register_eq (cipher : MinecraftStreamCipher) (bytes : List UInt8) :
    (cipher.applyEncrypt aes bytes).1.shiftRegister.toList =
      (cipher.shiftRegister.toList ++ (cipher.applyEncrypt aes bytes).2).rtake 16 := by
  have hdrop : ∀ (cipher : MinecraftStreamCipher) (bytes : List UInt8),
      (cipher.applyEncrypt aes bytes).1.shiftRegister.toList =
        (cipher.shiftRegister.toList ++ (cipher.applyEncrypt aes bytes).2).drop
          (cipher.applyEncrypt aes bytes).2.length := by
    intro cipher bytes
    induction bytes generalizing cipher with
    | nil => simp [applyEncrypt]
    | cons byte bytes ih =>
      simp only [applyEncrypt, List.length_cons]
      rw [ih, shift_toList, List.append_assoc, List.singleton_append, ← List.drop_drop,
        ← List.drop_one]
      have hlong : 1 ≤ cipher.shiftRegister.toList.length := by simp
      rw [← List.drop_append_of_le_length hlong]
      simp only [List.drop_drop]
      congr 1
      omega
  rw [hdrop, List.rtake, List.length_append, Vector.length_toList]
  congr 1
  omega

/-- Whatever the cuts and the hand-overs of the two ends, the plaintext comes back and both
    registers hold the last sixteen bytes of the secret and the ciphertext. -/
theorem decryptStream_encryptStream (sharedSecret : Block) (sent received : List (Stretch UInt8))
    (hreceived : streamOf received = (encryptStream aes (new sharedSecret) sent).2) :
    (decryptStream aes (new sharedSecret) received).2 = streamOf sent ∧
      (encryptStream aes (new sharedSecret) sent).1.shiftRegister.toList =
        (sharedSecret.toList ++ (encryptStream aes (new sharedSecret) sent).2).rtake 16 ∧
      (decryptStream aes (new sharedSecret) received).1.shiftRegister.toList =
        (sharedSecret.toList ++ (encryptStream aes (new sharedSecret) sent).2).rtake 16 := by
  have hreplace : ∀ cipher : MinecraftStreamCipher, cipher.handOver = cipher := restore_snapshot
  have hback : decryptStream aes (new sharedSecret) received =
      ((encryptStream aes (new sharedSecret) sent).1, streamOf sent) :=
    Inverts.transform (applyDecrypt_applyEncrypt aes) (applyEncrypt_sequential aes)
      (applyDecrypt_sequential aes) hreplace (new sharedSecret) hreceived
  have hregister : (encryptStream aes (new sharedSecret) sent).1.shiftRegister.toList =
      (sharedSecret.toList ++ (encryptStream aes (new sharedSecret) sent).2).rtake 16 := by
    rw [encryptStream, (applyEncrypt_sequential aes).transform_eq hreplace]
    exact register_eq aes (new sharedSecret) (streamOf sent)
  refine ⟨?_, hregister, ?_⟩
  · rw [hback]
  · rw [hback, hregister]

/-- Three bytes written in two pieces with a hand-over, and read in one piece after one. -/
theorem decryptStream_encryptStream_three :
    (decryptStream (fun key block => Vector.ofFn fun i => key.get i + block.get i)
      (new (Vector.ofFn fun _ => 7)) [.replaced, .piece [15, 16, 13]]).2 = [1, 30, 3] := by
  have hreceived : streamOf [.replaced, .piece [15, 16, 13]] =
      (encryptStream (fun key block => Vector.ofFn fun i => key.get i + block.get i)
        (new (Vector.ofFn fun _ => 7)) [.piece [1], .replaced, .piece [30, 3]]).2 := by decide
  exact (decryptStream_encryptStream (fun key block => Vector.ofFn fun i => key.get i + block.get i)
    (Vector.ofFn fun _ => 7) [.piece [1], .replaced, .piece [30, 3]]
    [.replaced, .piece [15, 16, 13]] hreceived).1

end MinecraftStreamCipher

end RevyCraft.Transport
