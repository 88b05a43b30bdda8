import DigitCalc.Text.Utf8
import Mathlib.Tactic.SplitIfs

/-! Every text can be held in a file: its UTF-8 is read back as that text, wherever the blocks of the file happen to
end. -/
namespace DigitCalc.Text.Utf8
variable {first b : UInt8} {middle bytes more kept left last : List UInt8} {text known further : List Char}
variable {width : Nat}

def encode (text : String) : List UInt8 :=
  text.toList.flatMap String.utf8EncodeChar

/-- Bytes that add to the text and to the sequence at hand, in blocks of whatever size. -/
def Takes (bytes : List UInt8) (text : List Char) (kept : List UInt8) (known : List Char) (left : List UInt8) : Prop :=
  ∀ room position rest, ∃ fewer there,
    decode room ⟨text, kept, position⟩ (bytes ++ rest) = decode fewer ⟨known, left, there⟩ rest

theorem Takes.trans (one : Takes bytes text kept known left) (two : Takes more known left further last) :
    Takes (bytes ++ more) text kept further last := by
  intro room position rest
  obtain ⟨fewer, there, passed⟩ := one room position (more ++ rest)
  obtain ⟨least, place, ended⟩ := two fewer there rest
  exact ⟨least, place, by rw [List.append_assoc, passed, ended]⟩

theorem takes_byte (advances : ∀ position, ∃ there, advance ⟨text, kept, position⟩ b = .ok ⟨known, left, there⟩) :
    Takes [b] text kept known left := by
  intro room position rest
  cases room with
  | zero =>
      obtain ⟨there, advanced⟩ := advances 0
      exact ⟨blockSize - 1, there, by simp only [List.singleton_append, decode, advanced]⟩
  | succ room =>
      obtain ⟨there, advanced⟩ := advances position
      exact ⟨room, there, by simp only [List.singleton_append, decode, advanced]⟩

theorem takes_only (starts : width? b = some 1) : Takes [b] text [] (Char.ofNat b.toNat :: text) [] := by
  refine takes_byte fun position => ⟨position + 1, ?_⟩
  simp [advance, starts, grow, codePoint]

theorem takes_lead (starts : width? b = some width) (many : 1 < width) : Takes [b] text [] text [b] := by
  refine takes_byte fun position => ⟨position, ?_⟩
  simp [advance, starts, grow, show 1 ≠ width by omega]

/-- What a byte has to be to go on with a sequence. -/
def Admits (first : UInt8) (middle : List UInt8) (b : UInt8) : Prop :=
  isSurrogate (first :: middle) = false ∧
    (if middle = [] then isSecond first b || isSurrogate [first, b] else isContinuation b) = true

theorem takes_inner (starts : width? first = some width) (admits : Admits first middle b)
    (short : middle.length + 2 < width) : Takes [b] text (first :: middle) text (first :: middle ++ [b]) := by
  refine takes_byte fun position => ⟨position, ?_⟩
  have more : (first :: middle ++ [b]).length ≠ width := by simp; omega
  simp only [advance, admits.1, admits.2, starts, Option.getD_some, grow, if_neg more]
  rfl

theorem takes_last (starts : width? first = some width) (admits : Admits first middle b)
    (full : middle.length + 2 = width) :
    Takes [b] text (first :: middle) (Char.ofNat (codePoint (first :: middle ++ [b])) :: text) [] := by
  refine takes_byte fun position => ⟨position + width, ?_⟩
  have all : (first :: middle ++ [b]).length = width := by simp; omega
  simp only [advance, admits.1, admits.2, starts, Option.getD_some, grow, if_pos all]
  rfl

/-! The bytes of one character. -/

theorem toNat_byte {n : Nat} (small : n < 256) : (UInt8.ofNat n).toNat = n := by
  rw [UInt8.toNat_ofNat']
  omega

theorem width?_eq (b : UInt8) : width? b =
    if b.toNat < 0x80 then some 1
    else if b.toNat < 0xc2 then none
    else if b.toNat < 0xe0 then some 2
    else if b.toNat < 0xf0 then some 3
    else if b.toNat < 0xf5 then some 4
    else none := by
  simp only [width?, UInt8.lt_iff_toNat_lt]
  rfl

theorem isContinuation_iff (b : UInt8) : isContinuation b = true ↔ 0x80 ≤ b.toNat ∧ b.toNat ≤ 0xbf := by
  simp [isContinuation, UInt8.le_iff_toNat_le]

theorem isSurrogate_iff (first b : UInt8) :
    isSurrogate [first, b] = true ↔ first.toNat = 0xed ∧ 0xa0 ≤ b.toNat ∧ b.toNat ≤ 0xbf := by
  simp [isSurrogate, UInt8.le_iff_toNat_le, ← UInt8.toNat_inj, and_assoc]

/-- Neither overlong nor a surrogate nor past the last plane. -/
theorem isSecond_of (within : isContinuation b = true) (three : first.toNat = 0xe0 → 0xa0 ≤ b.toNat)
    (whole : first.toNat = 0xed → b.toNat ≤ 0x9f) (four : first.toNat = 0xf0 → 0x90 ≤ b.toNat)
    (plane : first.toNat = 0xf4 → b.toNat ≤ 0x8f) : isSecond first b = true := by
  obtain ⟨least, most⟩ := (isContinuation_iff b).mp within
  have same (n : UInt8) : first = n ↔ first.toNat = n.toNat := UInt8.toNat_inj.symm
  simp only [isSecond, same, UInt8.le_iff_toNat_le, within]
  split_ifs with e0 ed f0 f4
  · simpa using ⟨three e0, most⟩
  · simpa using ⟨least, whole ed⟩
  · simpa using ⟨four f0, most⟩
  · simpa using ⟨least, plane f4⟩
  · rfl

theorem second_whole (second : isSecond first b = true) : isSurrogate [first, b] = false := by
  rw [← Bool.not_eq_true, isSurrogate_iff]
  rintro ⟨lead, least, _⟩
  have same : first = 0xed := UInt8.toNat_inj.mp lead
  simp only [isSecond, same, UInt8.le_iff_toNat_le] at second
  simp at second
  omega

/-! Sequences by the class of each of their bytes. -/

section Sequences
variable {second third fourth : UInt8} {v : Nat}

theorem takes_two (starts : width? first = some 2) (admitted : isSecond first second = true)
    (point : codePoint [first, second] = v) : Takes [first, second] text [] (Char.ofNat v :: text) [] := by
  subst point
  have ends : Admits first [] second := ⟨rfl, by simp [admitted]⟩
  exact (takes_lead starts (by decide)).trans (takes_last starts ends rfl)

theorem takes_three (starts : width? first = some 3) (admitted : isSecond first second = true)
    (ending : isContinuation third = true) (point : codePoint [first, second, third] = v) :
    Takes [first, second, third] text [] (Char.ofNat v :: text) [] := by
  subst point
  have goes : Admits first [] second := ⟨rfl, by simp [admitted]⟩
  have ends : Admits first [second] third := ⟨second_whole admitted, ending⟩
  have inner : Takes [second] text [first] text [first, second] := takes_inner starts goes (by decide)
  exact ((takes_lead starts (by decide)).trans inner).trans (takes_last starts ends rfl)

theorem takes_four (starts : width? first = some 4) (admitted : isSecond first second = true)
    (within : isContinuation third = true) (ending : isContinuation fourth = true)
    (point : codePoint [first, second, third, fourth] = v) :
    Takes [first, second, third, fourth] text [] (Char.ofNat v :: text) [] := by
  subst point
  have goes : Admits first [] second := ⟨rfl, by simp [admitted]⟩
  have runs : Admits first [second] third := ⟨second_whole admitted, within⟩
  have ends : Admits first [second, third] fourth := ⟨rfl, ending⟩
  have inner : Takes [second] text [first] text [first, second] := takes_inner starts goes (by decide)
  have next : Takes [third] text [first, second] text [first, second, third] := takes_inner starts runs (by simp)
  exact (((takes_lead starts (by decide)).trans inner).trans next).trans (takes_last starts ends rfl)

end Sequences

theorem tail_byte (n : Nat) : (UInt8.ofNat (n % 64 + 128)).toNat = n % 64 + 128 :=
  toNat_byte (by omega)

theorem tail_continues (n : Nat) : isContinuation (UInt8.ofNat (n % 64 + 128)) = true := by
  rw [isContinuation_iff, tail_byte]
  omega

theorem takes_char (c : Char) (text : List Char) : Takes (String.utf8EncodeChar c) text [] (c :: text) [] := by
  have same : Char.ofNat c.val.toNat = c := Char.ofNat_toNat c
  have valid : c.val.toNat < 0xd800 ∨ 0xdfff < c.val.toNat ∧ c.val.toNat < 0x110000 := c.valid
  unfold String.utf8EncodeChar
  generalize c.val.toNat = v at *
  subst same
  simp only
  -- The tail of a sequence is made alike in all of them; its second byte is restricted by the first one.
  have middle := tail_byte (v / 64)
  have before := tail_byte (v / 4096)
  split_ifs with one two three
  · have byte : (UInt8.ofNat v).toNat = v := toNat_byte (by omega)
    have only := @takes_only (UInt8.ofNat v) text (by rw [width?_eq, byte, if_pos (by omega)])
    rwa [byte] at only
  · have lead : (UInt8.ofNat (v / 64 % 32 + 192)).toNat = v / 64 % 32 + 192 := toNat_byte (by omega)
    refine takes_two ?_ (isSecond_of (tail_continues v) (by omega) (by omega) (by omega) (by omega)) ?_
    · rw [width?_eq, lead, if_neg (by omega), if_neg (by omega), if_pos (by omega)]
    · simp only [codePoint, low, lead, tail_byte]
      omega
  · have lead : (UInt8.ofNat (v / 4096 % 16 + 224)).toNat = v / 4096 % 16 + 224 := toNat_byte (by omega)
    refine takes_three ?_ (isSecond_of (tail_continues (v / 64)) (by omega) (by omega) (by omega) (by omega))
      (tail_continues v) ?_
    · rw [width?_eq, lead, if_neg (by omega), if_neg (by omega), if_neg (by omega), if_pos (by omega)]
    · simp only [codePoint, low, lead, tail_byte]
      omega
  · have lead : (UInt8.ofNat (v / 262144 % 8 + 240)).toNat = v / 262144 % 8 + 240 := toNat_byte (by omega)
    refine takes_four ?_ (isSecond_of (tail_continues (v / 4096)) (by omega) (by omega) (by omega) (by omega))
      (tail_continues (v / 64)) (tail_continues v) ?_
    · rw [width?_eq, lead, if_neg (by omega), if_neg (by omega), if_neg (by omega), if_neg (by omega),
        if_pos (by omega)]
    · simp only [codePoint, low, lead, tail_byte]
      omega

theorem decode_encode (chars : List Char) (room : Nat) (text : List Char) (position : Nat) :
    decode room ⟨text, [], position⟩ (chars.flatMap String.utf8EncodeChar) = .ok (text.reverse ++ chars) := by
  induction chars generalizing room text position with
  | nil => cases room <;> simp [decode, finish]
  | cons c chars ih =>
      obtain ⟨fewer, there, passed⟩ := takes_char c text room position (chars.flatMap String.utf8EncodeChar)
      rw [List.flatMap_cons, passed, ih]
      simp

theorem read_encode (text : String) : read (encode text) = .ok text := by
  rw [read, encode, decode_encode]
  simp [Except.map]

def ascii (text : String) : List UInt8 :=
  text.toList.map fun c => c.toNat.toUInt8

theorem encode_ascii {text : String} (small : ∀ c ∈ text.toList, c.toNat < 128) : encode text = ascii text := by
  have single : ∀ c ∈ text.toList, String.utf8EncodeChar c = [c.toNat.toUInt8] := by
    intro c member
    exact if_pos (Nat.le_of_lt_succ (small c member))
  rw [encode, ascii, List.map_eq_flatMap, List.flatMap_def, List.flatMap_def, List.map_congr_left single]

theorem read_ascii {text : String} (small : ∀ c ∈ text.toList, c.toNat < 128) : read (ascii text) = .ok text := by
  rw [← encode_ascii small, read_encode]

end DigitCalc.Text.Utf8
