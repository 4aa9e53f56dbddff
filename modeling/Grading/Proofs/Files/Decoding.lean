import Grading.Files.Tree
import Grading.Proofs.Text.Lines
import Mathlib.Data.List.Basic

/-!
# Decoding — a text is read back however its bytes are cut into blocks

The bytes of a character begin with one that says how many follow; those that a block cuts off are
read with the next block.
-/

namespace Grading.Text

/-! ## 1. Characters -/

def encoded (cs : List Char) : List UInt8 := cs.flatMap String.utf8EncodeChar

theorem encode_eq (s : String) : encode s = encoded s.toList := by
  have hbytes : s.toByteArray = s.toList.utf8Encode := by
    rw [← String.toByteArray_ofList, String.ofList_toList]
  rw [encode, String.toUTF8, hbytes, List.utf8Encode, List.toList_data_toByteArray, encoded]

theorem encoded_append (cs ds : List Char) : encoded (cs ++ ds) = encoded cs ++ encoded ds :=
  List.flatMap_append

/-- Bytes that go on within bounds until the value of a character is complete. -/
def Completes (v : Nat) : Nat → Nat → Nat → List UInt8 → Prop
  | _, _, value, [] => value = v
  | low, high, value, b :: tail =>
    (low ≤ b.toNat ∧ b.toNat ≤ high) ∧ Completes v 0x80 0xbf (value * 64 + b.toNat % 64) tail

theorem decodeRest_completes {v low high value : Nat} {tail : List UInt8}
    (h : Completes v low high value tail) (taken : Nat) (rest : List UInt8) :
    decodeRest taken tail.length low high value (tail ++ rest) = .char (Char.ofNat v) rest := by
  induction tail generalizing low high value taken with
  | nil =>
    obtain rfl : value = v := h
    rfl
  | cons b tail ih =>
    obtain ⟨hb, htail⟩ := h
    rw [List.length_cons, List.cons_append, decodeRest, if_pos (by simpa using hb)]
    exact ih htail _

theorem decodeRest_take {v low high value n : Nat} {tail : List UInt8}
    (h : Completes v low high value tail) (hn : n < tail.length) (taken : Nat) :
    decodeRest taken tail.length low high value (tail.take n) = .broken (taken + n) .cutShort := by
  induction tail generalizing low high value n taken with
  | nil => exact absurd hn (Nat.not_lt_zero n)
  | cons b tail ih =>
    obtain ⟨hb, htail⟩ := h
    cases n with
    | zero => rfl
    | succ n =>
      rw [List.length_cons, List.take_succ_cons, decodeRest, if_pos (by simpa using hb)]
      rw [ih htail (by simpa using hn)]
      congr 1
      omega

theorem lead?_one {b : UInt8} (h : b.toNat < 0x80) : lead? b = some ⟨0, 0, 0, b.toNat⟩ := by
  unfold lead?
  rw [if_pos h]

theorem lead?_two {b : UInt8} (h : 0xc2 ≤ b.toNat) (h' : b.toNat < 0xe0) :
    lead? b = some ⟨1, 0x80, 0xbf, b.toNat - 0xc0⟩ := by
  unfold lead?
  rw [if_neg (by omega), if_neg (by omega), if_pos h']

theorem lead?_three {b : UInt8} (h : 0xe0 ≤ b.toNat) (h' : b.toNat < 0xf0) :
    lead? b = some ⟨2, if b.toNat = 0xe0 then 0xa0 else 0x80,
      if b.toNat = 0xed then 0x9f else 0xbf, b.toNat - 0xe0⟩ := by
  unfold lead?
  rw [if_neg (by omega), if_neg (by omega), if_neg (by omega), if_pos h']

theorem lead?_four {b : UInt8} (h : 0xf0 ≤ b.toNat) (h' : b.toNat < 0xf5) :
    lead? b = some ⟨3, if b.toNat = 0xf0 then 0x90 else 0x80,
      if b.toNat = 0xf4 then 0x8f else 0xbf, b.toNat - 0xf0⟩ := by
  unfold lead?
  rw [if_neg (by omega), if_neg (by omega), if_neg (by omega), if_neg (by omega), if_pos h']

/-- The bytes of a character: a lead byte that tells how many follow, and the bytes that complete
it. -/
theorem encodeChar_eq (c : Char) : ∃ b tail l, String.utf8EncodeChar c = b :: tail ∧
    lead? b = some l ∧ l.following = tail.length ∧ Completes c.toNat l.low l.high l.bits tail := by
  have hvalid := c.valid
  simp only [UInt32.isValidChar, Nat.isValidChar] at hvalid
  have htail : ∀ n, (UInt8.ofNat (n % 64 + 128)).toNat = n % 64 + 128 :=
    fun n => UInt8.toNat_ofNat_of_lt' (show n % 64 + 128 < 256 by omega)
  unfold String.utf8EncodeChar
  rw [Char.toNat]
  generalize c.val.toNat = v at hvalid
  dsimp only
  -- A character takes one to four bytes; the bounds of the second byte leave out what fewer bytes can
  -- write, surrogates, and what is beyond the last character.
  split
  · have hfirst := UInt8.toNat_ofNat_of_lt' (show v < 256 by omega)
    exact ⟨_, _, _, rfl, lead?_one (by omega), rfl, hfirst⟩
  split
  · have hfirst := UInt8.toNat_ofNat_of_lt' (show v / 64 % 32 + 192 < 256 by omega)
    refine ⟨_, _, _, rfl, lead?_two (by omega) (by omega), rfl, ?_⟩
    simp only [Completes, hfirst, htail]
    omega
  split
  · have hfirst := UInt8.toNat_ofNat_of_lt' (show v / 4096 % 16 + 224 < 256 by omega)
    refine ⟨_, _, _, rfl, lead?_three (by omega) (by omega), rfl, ?_⟩
    simp only [Completes, hfirst, htail]
    split <;> split <;> omega
  · have hfirst := UInt8.toNat_ofNat_of_lt' (show v / 262144 % 8 + 240 < 256 by omega)
    refine ⟨_, _, _, rfl, lead?_four (by omega) (by omega), rfl, ?_⟩
    simp only [Completes, hfirst, htail]
    split <;> split <;> omega

/-- The bytes of a character are read as it, and a part of them asks for more. -/
theorem decodeChar_encodeChar (c : Char) : ∃ b tail, String.utf8EncodeChar c = b :: tail ∧
    (∀ rest, decodeChar b (tail ++ rest) = .char c rest) ∧
    ∀ n < tail.length, decodeChar b (tail.take n) = .broken (1 + n) .cutShort := by
  obtain ⟨b, tail, l, hbytes, hlead, hfollowing, hcompletes⟩ := encodeChar_eq c
  refine ⟨b, tail, hbytes, fun rest => ?_, fun n hn => ?_⟩
  · rw [decodeChar, hlead]
    dsimp only
    rw [hfollowing, decodeRest_completes hcompletes, Char.ofNat_toNat]
  · rw [decodeChar, hlead]
    dsimp only
    rw [hfollowing, decodeRest_take hcompletes hn]

/-! ## 2. Texts -/

theorem encoded_cons {c : Char} {b : UInt8} {tail : List UInt8}
    (h : String.utf8EncodeChar c = b :: tail) (cs : List Char) :
    encoded (c :: cs) = b :: (tail ++ encoded cs) := by
  rw [encoded, List.flatMap_cons, h, List.cons_append, encoded]

/-- Of two cuts of the same bytes, the first part of one ends in that of the other or contains it. -/
theorem cut_or_whole {tail r more rest : List UInt8} (h : r ++ more = tail ++ rest) :
    (r.length < tail.length ∧ more ≠ [] ∧ r = tail.take r.length) ∨
      ∃ part, r = tail ++ part ∧ part ++ more = rest := by
  rcases List.append_eq_append_iff.mp h with ⟨cut, htail, hmore⟩ | ⟨part, hr, hrest⟩
  · cases cut with
    | nil => exact .inr ⟨[], by simp [htail], by simp [hmore]⟩
    | cons x cut => exact .inl ⟨by simp [htail], by simp [hmore], by simp [htail]⟩
  · exact .inr ⟨part, hr, hrest.symm⟩

/-- Reading the first part of the bytes of a text ends between two of its characters or is cut short
in one of them. -/
theorem decodeFrom_part {cs : List Char} {part more : List UInt8} (h : part ++ more = encoded cs)
    {fuel : Nat} (hfuel : part.length ≤ fuel) (i : Nat) :
    ∃ done left pending, cs = done ++ left ∧ part = encoded done ++ pending ∧
      (pending = [] ∧ decodeFrom fuel i part = .ok done ∨
        ∃ e, more ≠ [] ∧ e.reason = .cutShort ∧ e.start = i + (encoded done).length ∧
          decodeFrom fuel i part = .error e) := by
  -- Over the characters, not over the fuel: each takes its bytes from the front of the part.
  induction cs generalizing part fuel i with
  | nil =>
    obtain ⟨rfl, rfl⟩ := List.append_eq_nil_iff.mp h
    refine ⟨[], [], [], rfl, rfl, .inl ⟨rfl, ?_⟩⟩
    cases fuel <;> rfl
  | cons c cs ih =>
    obtain ⟨b, tail, hbytes, hwhole, hcut⟩ := decodeChar_encodeChar c
    cases part with
    | nil =>
      refine ⟨[], c :: cs, [], rfl, rfl, .inl ⟨rfl, ?_⟩⟩
      cases fuel <;> rfl
    | cons b' r =>
      cases fuel with
      | zero => exact absurd hfuel (by simp)
      | succ fuel =>
      rw [encoded_cons hbytes, List.cons_append] at h
      obtain ⟨rfl, htails⟩ := List.cons.inj h
      rcases cut_or_whole htails with ⟨hlt, hmore, hr⟩ | ⟨part, rfl, hpart⟩
      · -- The part ends in the character: nothing is read.
        have hread : decodeFrom (fuel + 1) i (b' :: r) =
            .error ⟨i, 1 + r.length, b', .cutShort⟩ := by
          rw [decodeFrom, hr, hcut _ hlt, ← hr]
        exact ⟨[], c :: cs, b' :: r, rfl, rfl, .inr ⟨_, hmore, rfl, rfl, hread⟩⟩
      · have hlength : part.length ≤ fuel := by
          simp only [List.length_cons, List.length_append] at hfuel
          omega
        obtain ⟨done, left, pending, rfl, hdone, hread⟩ :=
          ih hpart hlength (i + ((tail ++ part).length + 1 - part.length))
        refine ⟨c :: done, left, pending, rfl, ?_, ?_⟩
        · rw [encoded_cons hbytes, hdone, List.cons_append, List.append_assoc]
        rw [decodeFrom, hwhole]
        dsimp only
        rcases hread with ⟨rfl, hok⟩ | ⟨e, hmore, hreason, hstart, herror⟩
        · rw [hok]
          exact .inl ⟨rfl, rfl⟩
        · rw [herror]
          refine .inr ⟨e, hmore, hreason, ?_, rfl⟩
          rw [hstart, encoded_cons hbytes]
          simp only [List.length_cons, List.length_append]
          omega

theorem eq_nil_of_encoded {cs : List Char} (h : encoded cs = []) : cs = [] := by
  cases cs with
  | nil => rfl
  | cons c cs =>
    obtain ⟨b, tail, hbytes, -⟩ := decodeChar_encodeChar c
    rw [encoded_cons hbytes] at h
    exact nomatch h

theorem decode_encoded (cs : List Char) : decode (encoded cs) = .ok cs := by
  obtain ⟨done, left, pending, rfl, hdone, ⟨rfl, hok⟩ | ⟨_, hmore, -⟩⟩ :=
    decodeFrom_part (List.append_nil (encoded cs)) Nat.le.refl 0
  · rw [encoded_append, List.append_nil, List.append_right_eq_self] at hdone
    obtain rfl := eq_nil_of_encoded hdone
    rw [decode, hok, List.append_nil]
  · exact absurd rfl hmore

end Grading.Text

namespace Grading.Files

open Grading.Text

/-! ## 3. Blocks -/

/-- Encoded text is decoded in full, whatever the blocks it is read in. -/
theorem decodeBlocks_encoded {cs : List Char} {fuel : Nat} {pending bytes : List UInt8}
    (h : pending ++ bytes = encoded cs) (hfuel : bytes.length < fuel) :
    decodeBlocks fuel pending bytes = (cs, none) := by
  induction fuel generalizing cs pending bytes with
  | zero => exact absurd hfuel (Nat.not_lt_zero _)
  | succ fuel ih =>
    rw [decodeBlocks]
    by_cases hempty : bytes.isEmpty
    · rw [if_pos hempty]
      obtain rfl := List.isEmpty_iff.mp hempty
      rw [List.append_nil] at h
      rw [decodeLast, h, decode_encoded]
    rw [if_neg hempty]
    have hpos : 0 < bytes.length := List.length_pos_iff.mpr (by simpa using hempty)
    have hrest : (bytes.drop blockSize).length < fuel := by
      rw [List.length_drop, blockSize]
      omega
    -- What a block is cut short of is pending before the next one, so that together they are a text.
    have hblock : (pending ++ bytes.take blockSize) ++ bytes.drop blockSize = encoded cs := by
      rw [List.append_assoc, List.take_append_drop, h]
    dsimp only
    generalize pending ++ bytes.take blockSize = block at hblock
    obtain ⟨done, left, rest, rfl, hdone, ⟨rfl, hok⟩ | ⟨e, -, hreason, hstart, herror⟩⟩ :=
      decodeFrom_part hblock Nat.le.refl 0
    · rw [hdone, encoded_append, List.append_nil] at hblock
      have hleft := @ih left [] _ (List.append_cancel_left hblock) hrest
      rw [decode, hok]
      dsimp only
      rw [hleft]
    · rw [hdone, encoded_append, List.append_assoc] at hblock
      have hleft := ih (List.append_cancel_left hblock) hrest
      rw [Nat.zero_add] at hstart
      have hbefore : block.take e.start = encoded done := by rw [hdone, hstart, List.take_left]
      have hafter : block.drop e.start = rest := by rw [hdone, hstart, List.drop_left]
      rw [decode, herror]
      dsimp only
      rw [if_pos hreason, hbefore, hafter, decode_encoded]
      dsimp only
      rw [hleft]

theorem decodeBlocks_encode (s : String) :
    decodeBlocks ((encode s).length + 1) [] (encode s) = (s.toList, none) := by
  rw [encode_eq]
  exact decodeBlocks_encoded rfl (Nat.lt_succ_self _)

/-- A file that was written as a text with plain line breaks is read back as that text, and reading it
does not break off. -/
theorem stream_encode {tree : Tree} {path : Path} {s : String}
    (hread : tree.read path = .ok (encode s)) (hreturn : '\r' ∉ s.toList) :
    tree.stream path = .ok { text := s } := by
  unfold Tree.stream
  rw [hread]
  show Except.ok (TextStream.mk
    (String.ofList (plainBreaks (decodeBlocks ((encode s).length + 1) [] (encode s)).1))
    (decodeBlocks ((encode s).length + 1) [] (encode s)).2) = _
  rw [decodeBlocks_encode, plainBreaks_eq_self hreturn, String.ofList_toList]

end Grading.Files
