import LiveIni.Encoding.Codec

/-!
Texts that are encoded in UTF-8, and decoded again. The first byte of a character says how many
follow it, so that every character is read back wherever its bytes stand, and a text and another one
at its end are read back as the two together.
-/

namespace LiveIni

namespace Encoding

/-- Reading goes on after bytes that are skipped. -/
theorem decodeFrom_skip (codec : String) (unit : UInt8 → Bytes → Step) (skipped rest : Bytes)
    (position : Nat)
    : decodeFrom codec unit skipped.length position (skipped ++ rest)
      = decodeFrom codec unit 0 (position + skipped.length) rest := by
  induction skipped generalizing position with
  | nil => rfl
  | cons b skipped ih =>
      have next : position + 1 + skipped.length = position + (skipped.length + 1) := by omega
      simp only [List.length_cons, List.cons_append, decodeFrom, ih, next]

-----------------------------------------------------------------------------------------
-- Characters
-----------------------------------------------------------------------------------------

theorem utf8Lead?_two {n : Nat} (least : 2 ≤ n) (bits : n < 32)
    : utf8Lead? (n + 192) = some (1, 0x80, 0xbf, n) := by
  rw [utf8Lead?, if_neg (by omega), if_pos (by omega), Nat.add_sub_cancel]

theorem utf8Lead?_three {n : Nat} (bits : n < 16)
    : utf8Lead? (n + 224)
      = some (2, if n + 224 = 0xe0 then 0xa0 else 0x80, if n + 224 = 0xed then 0x9f else 0xbf, n) := by
  rw [utf8Lead?, if_neg (by omega), if_neg (by omega), if_pos (by omega), Nat.add_sub_cancel]

theorem utf8Lead?_four {n : Nat} (bits : n < 5)
    : utf8Lead? (n + 240)
      = some (3, if n + 240 = 0xf0 then 0x90 else 0x80, if n + 240 = 0xf4 then 0x8f else 0xbf, n) := by
  rw [utf8Lead?, if_neg (by omega), if_neg (by omega), if_neg (by omega), if_pos (by omega),
    Nat.add_sub_cancel]

/-- A lead byte hands on to the bytes that follow it. -/
theorem utf8Unit_of_lead {n due low high bits : Nat} {rest : Bytes} (byte : n < 0x100)
    (lead : utf8Lead? n = some (due, low, high, bits))
    : utf8Unit (UInt8.ofNat n) rest
      = (utf8Tail due low high bits 1 rest).map fun code => (Char.ofNat code, due) := by
  have same : (UInt8.ofNat n).toNat = n := UInt8.toNat_ofNat_of_lt' byte
  have above : ¬ n < 0x80 := by
    intro below
    have early : n < 0xc2 := by omega
    rw [utf8Lead?, if_pos early] at lead
    cases lead
  rw [utf8Unit, same, if_neg above, lead]

/-- A byte that continues a character adds six bits to it. -/
theorem utf8Tail_continued {due low high bits read n : Nat} {rest : Bytes}
    (within : low ≤ n % 64 + 128 ∧ n % 64 + 128 ≤ high)
    : utf8Tail (due + 1) low high bits read (UInt8.ofNat (n % 64 + 128) :: rest)
      = utf8Tail due 0x80 0xbf (bits * 64 + n % 64) (read + 1) rest := by
  have byte : n % 64 + 128 < 0x100 := by omega
  have same : (UInt8.ofNat (n % 64 + 128)).toNat = n % 64 + 128 := UInt8.toNat_ofNat_of_lt' byte
  rw [utf8Tail, same, if_pos within, Nat.add_sub_cancel]

/-- The bytes of a character are read as that character, whatever follows them. -/
theorem utf8Unit_encodeChar (c : Char) (rest : Bytes)
    : ∃ first tail, String.utf8EncodeChar c = first :: tail
        ∧ utf8Unit first (tail ++ rest) = .ok (c, tail.length) := by
  have scalar : c.toNat < 0xd800 ∨ 0xdfff < c.toNat ∧ c.toNat < 0x110000 := c.valid
  have same : Char.ofNat c.toNat = c := Char.ofNat_toNat c
  generalize value : c.toNat = v at scalar same
  have written : String.utf8EncodeChar c
      = if v ≤ 127 then [UInt8.ofNat v]
        else if v ≤ 2047 then [UInt8.ofNat (v / 64 % 32 + 192), UInt8.ofNat (v % 64 + 128)]
        else if v ≤ 65535 then
          [UInt8.ofNat (v / 4096 % 16 + 224), UInt8.ofNat (v / 64 % 64 + 128),
            UInt8.ofNat (v % 64 + 128)]
        else
          [UInt8.ofNat (v / 262144 % 8 + 240), UInt8.ofNat (v / 4096 % 64 + 128),
            UInt8.ofNat (v / 64 % 64 + 128), UInt8.ofNat (v % 64 + 128)] := by
    rw [← value]
    rfl
  rw [written]
  split
  · next one =>
      have byte : v < 0x100 := by omega
      refine ⟨_, _, rfl, ?_⟩
      rw [utf8Unit, UInt8.toNat_ofNat_of_lt' byte, if_pos (by omega), same]
      rfl
  · split
    · next two =>
        have lead := @utf8Lead?_two (v / 64 % 32) (by omega) (by omega)
        have whole : v / 64 % 32 * 64 + v % 64 = v := by omega
        refine ⟨_, _, rfl, ?_⟩
        rw [utf8Unit_of_lead (by omega) lead, List.cons_append, utf8Tail_continued (by omega),
          utf8Tail, whole]
        exact congrArg (fun d => Except.ok (d, 1)) same
    · split
      · next three =>
          have lead := @utf8Lead?_three (v / 4096 % 16) (by omega)
          have whole : (v / 4096 % 16 * 64 + v / 64 % 64) * 64 + v % 64 = v := by omega
          refine ⟨_, _, rfl, ?_⟩
          -- No half of a surrogate pair is a character, which keeps the second byte in its range.
          rw [utf8Unit_of_lead (by omega) lead, List.cons_append,
            utf8Tail_continued (by split <;> split <;> omega), List.cons_append,
            utf8Tail_continued (by omega), utf8Tail, whole]
          exact congrArg (fun d => Except.ok (d, 2)) same
      · next four =>
          have lead := @utf8Lead?_four (v / 262144 % 8) (by omega)
          have whole
              : ((v / 262144 % 8 * 64 + v / 4096 % 64) * 64 + v / 64 % 64) * 64 + v % 64 = v := by
            omega
          refine ⟨_, _, rfl, ?_⟩
          rw [utf8Unit_of_lead (by omega) lead, List.cons_append,
            utf8Tail_continued (by split <;> split <;> omega), List.cons_append,
            utf8Tail_continued (by omega), List.cons_append, utf8Tail_continued (by omega),
            utf8Tail, whole]
          exact congrArg (fun d => Except.ok (d, 3)) same

-----------------------------------------------------------------------------------------
-- Texts
-----------------------------------------------------------------------------------------

/-- The bytes of a text are read as that text, by induction on the text. -/
theorem decodeFrom_utf8 (codec : String) (t : Text) (position : Nat)
    : decodeFrom codec utf8Unit 0 position t.utf8 = .ok t := by
  induction t generalizing position with
  | nil => rfl
  | cons c t ih =>
      obtain ⟨first, tail, written, reads⟩ := utf8Unit_encodeChar c (Text.utf8 t)
      have bytes : Text.utf8 (c :: t) = first :: (tail ++ Text.utf8 t) := by
        rw [Text.utf8, List.flatMap_cons, written]
        rfl
      rw [bytes, decodeFrom, reads]
      dsimp only
      rw [decodeFrom_skip, ih]
      rfl

theorem decode_utf8 (t : Text) : utf8.decode t.utf8 = .ok t :=
  congrArg (Except.mapError DecodeFault.malformed) (decodeFrom_utf8 "utf-8" t 0)

/-- An encoding has its own name among its names. -/
theorem ofName?_name (e : Encoding) : ofName? e.name.toList = some e := by
  cases e <;> decide

end Encoding

-----------------------------------------------------------------------------------------
-- Codecs
-----------------------------------------------------------------------------------------

/-- What the codec makes of a text for the start of a file, and then of another one for the end of
that file, it reads as the two texts together.
-/
def Codec.Rejoins (codec : Codec) : Prop :=
  ∀ first next bytes more, codec.encode true first = .ok bytes
    → codec.encode bytes.isEmpty next = .ok more
    → codec.decode (bytes ++ more) = .ok (first ++ next)

theorem Encoding.rejoins_utf8 : utf8.codec.Rejoins := by
  rintro first next bytes more ⟨⟩ ⟨⟩
  have joined : Text.utf8 first ++ Text.utf8 next = Text.utf8 (first ++ next) :=
    List.flatMap_append.symm
  exact (congrArg utf8.decode joined).trans (decode_utf8 _)

end LiveIni
