import RabbitRemote.Charset.Utf16
import RabbitRemote.Charset.Utf8
import RabbitRemote.Proofs.Fallible

namespace RabbitRemote.Charset

theorem code_of_valid {value : Nat} (valid : value.isValidChar) :
    (Char.ofNat value).toNat = value := by
  unfold Char.ofNat
  rw [dif_pos valid]
  rfl

theorem octet_of_small {value : Nat} (small : value < 256) : (UInt8.ofNat value).toNat = value :=
  UInt8.toNat_ofNat_of_lt' small

namespace Utf8

-- The octets of a text: every character in its shortest form.
def encode (text : List Char) : List UInt8 := text.flatMap String.utf8EncodeChar

def Opened.Admits (opened : Opened) (octet : UInt8) : Prop :=
  opened.low ≤ octet.toNat ∧ octet.toNat ≤ opened.high

def Opened.bitsWith (opened : Opened) (octet : UInt8) : Nat :=
  opened.bits * 64 + (octet.toNat - 0x80)

def Opened.after (opened : Opened) (octet : UInt8) : Opened :=
  ⟨opened.read + 1, opened.bitsWith octet, opened.missing - 1, 0x80, 0xBF⟩

-- The octets that an opened sequence lacks, and the character that it becomes with them.
inductive Completes : Opened → List UInt8 → Char → Prop where
  | last {opened : Opened} {octet : UInt8} (admitted : opened.Admits octet)
      (single : opened.missing ≤ 1) :
      Completes opened [octet] (Char.ofNat (opened.bitsWith octet))
  | more {opened : Opened} {octet : UInt8} {rest : List UInt8} {c : Char}
      (admitted : opened.Admits octet) (several : 1 < opened.missing)
      (later : Completes (opened.after octet) rest c) : Completes opened (octet :: rest) c

inductive Spells : List UInt8 → Char → Prop where
  | scalar {octet : UInt8} {c : Char} (alone : lead octet = .scalar c) : Spells [octet] c
  | sequence {octet : UInt8} {opened : Opened} {rest : List UInt8} {c : Char}
      (first : lead octet = .opens opened) (later : Completes opened rest c) :
      Spells (octet :: rest) c

section
variable {octet : UInt8}

-- Five classes of octets: what one of them opens depends on nothing but its value in its class.
theorem lead_scalar (value : octet.toNat < 0x80) :
    lead octet = .scalar (Char.ofNat octet.toNat) := by
  simp only [lead, if_pos value]

theorem lead_two (low : 0xC2 ≤ octet.toNat) (high : octet.toNat < 0xE0) :
    lead octet = .opens ⟨1, octet.toNat - 0xC0, 1, 0x80, 0xBF⟩ := by
  simp only [lead, if_neg (by omega : ¬ octet.toNat < 0x80),
    if_neg (by omega : ¬ octet.toNat < 0xC2), if_pos high]

theorem lead_three (low : 0xE0 ≤ octet.toNat) (high : octet.toNat < 0xF0) :
    lead octet = .opens ⟨1, octet.toNat - 0xE0, 2, if octet.toNat = 0xE0 then 0xA0 else 0x80,
      if octet.toNat = 0xED then 0x9F else 0xBF⟩ := by
  simp only [lead, if_neg (by omega : ¬ octet.toNat < 0x80),
    if_neg (by omega : ¬ octet.toNat < 0xC2), if_neg (by omega : ¬ octet.toNat < 0xE0), if_pos high]
  by_cases first : octet.toNat = 0xE0
  · simp [first]
  · by_cases surrogates : octet.toNat = 0xED
    · simp [surrogates]
    · simp [first, surrogates]

theorem lead_four (low : 0xF0 ≤ octet.toNat) (high : octet.toNat < 0xF5) :
    lead octet = .opens ⟨1, octet.toNat - 0xF0, 3, if octet.toNat = 0xF0 then 0x90 else 0x80,
      if octet.toNat = 0xF4 then 0x8F else 0xBF⟩ := by
  simp only [lead, if_neg (by omega : ¬ octet.toNat < 0x80),
    if_neg (by omega : ¬ octet.toNat < 0xC2), if_neg (by omega : ¬ octet.toNat < 0xE0),
    if_neg (by omega : ¬ octet.toNat = 0xE0), if_neg (by omega : ¬ octet.toNat = 0xED),
    if_neg (by omega : ¬ octet.toNat < 0xF0)]
  by_cases first : octet.toNat = 0xF0
  · simp [first]
  · by_cases last : octet.toNat = 0xF4
    · simp [last]
    · rw [if_neg first, if_pos (by omega)]
      simp [first, last]

theorem lead_invalid (stray : 0x80 ≤ octet.toNat ∧ octet.toNat < 0xC2 ∨ 0xF5 ≤ octet.toNat) :
    lead octet = .invalid := by
  simp only [lead, if_neg (by omega : ¬ octet.toNat < 0x80)]
  by_cases low : octet.toNat < 0xC2
  · rw [if_pos low]
  · rw [if_neg low, if_neg (by omega), if_neg (by omega), if_neg (by omega), if_neg (by omega),
      if_neg (by omega), if_neg (by omega), if_neg (by omega)]

end

theorem octet_classes (octet : UInt8) : octet.toNat < 0x80 ∨
    (0xC2 ≤ octet.toNat ∧ octet.toNat < 0xE0) ∨ (0xE0 ≤ octet.toNat ∧ octet.toNat < 0xF0) ∨
    (0xF0 ≤ octet.toNat ∧ octet.toNat < 0xF5) ∨
    (0x80 ≤ octet.toNat ∧ octet.toNat < 0xC2 ∨ 0xF5 ≤ octet.toNat) := by
  omega

section
variable {read bits low high : Nat} {back : List UInt8} {c : Char}

theorem completes_one : Completes ⟨read, bits, 1, low, high⟩ back c ↔
    ∃ x : UInt8, back = [x] ∧ (low ≤ x.toNat ∧ x.toNat ≤ high) ∧
      c = Char.ofNat (bits * 64 + (x.toNat - 0x80)) := by
  constructor
  · intro completes
    cases completes with
    | last admitted => exact ⟨_, rfl, admitted, rfl⟩
    | more _ several => exact absurd several (by simp)
  · rintro ⟨x, rfl, admitted, same⟩
    rw [same]
    exact .last admitted (Nat.le_refl 1)

theorem completes_two : Completes ⟨read, bits, 2, low, high⟩ back c ↔
    ∃ x y : UInt8, back = [x, y] ∧ (low ≤ x.toNat ∧ x.toNat ≤ high) ∧
      (0x80 ≤ y.toNat ∧ y.toNat ≤ 0xBF) ∧
      c = Char.ofNat ((bits * 64 + (x.toNat - 0x80)) * 64 + (y.toNat - 0x80)) := by
  constructor
  · intro completes
    cases completes with
    | last _ single => exact absurd single (by simp)
    | more admitted _ later =>
      obtain ⟨y, rfl, within, same⟩ := completes_one.mp later
      exact ⟨_, y, rfl, admitted, within, same⟩
  · rintro ⟨x, y, rfl, admitted, within, same⟩
    exact .more admitted (by simp) (completes_one.mpr ⟨y, rfl, within, same⟩)

theorem completes_three : Completes ⟨read, bits, 3, low, high⟩ back c ↔
    ∃ x y z : UInt8, back = [x, y, z] ∧ (low ≤ x.toNat ∧ x.toNat ≤ high) ∧
      (0x80 ≤ y.toNat ∧ y.toNat ≤ 0xBF) ∧ (0x80 ≤ z.toNat ∧ z.toNat ≤ 0xBF) ∧
      c = Char.ofNat (((bits * 64 + (x.toNat - 0x80)) * 64 + (y.toNat - 0x80)) * 64 +
        (z.toNat - 0x80)) := by
  constructor
  · intro completes
    cases completes with
    | last _ single => exact absurd single (by simp)
    | more admitted _ later =>
      obtain ⟨y, z, rfl, within, also, same⟩ := completes_two.mp later
      exact ⟨_, y, z, rfl, admitted, within, also, same⟩
  · rintro ⟨x, y, z, rfl, admitted, within, also, same⟩
    exact .more admitted (by simp) (completes_two.mpr ⟨y, z, rfl, within, also, same⟩)

end

-- The shortest forms of the four lengths, by the octets that are read.
section
variable {x y z w : UInt8}

theorem shortest_one (first : x.toNat < 0x80) :
    String.utf8EncodeChar (Char.ofNat x.toNat) = [x] := by
  have code : (Char.ofNat x.toNat).val.toNat = x.toNat := code_of_valid (.inl (by omega))
  rw [String.utf8EncodeChar, code, if_pos (by omega), UInt8.ofNat_toNat]

theorem shortest_two (first : 0xC2 ≤ x.toNat ∧ x.toNat < 0xE0)
    (second : 0x80 ≤ y.toNat ∧ y.toNat ≤ 0xBF) :
    String.utf8EncodeChar (Char.ofNat ((x.toNat - 0xC0) * 64 + (y.toNat - 0x80))) = [x, y] := by
  generalize same : (x.toNat - 0xC0) * 64 + (y.toNat - 0x80) = value
  have code : (Char.ofNat value).val.toNat = value := code_of_valid (.inl (by omega))
  have front : value / 64 % 32 + 192 = x.toNat := by omega
  have back : value % 64 + 128 = y.toNat := by omega
  rw [String.utf8EncodeChar, code, if_neg (by omega), if_pos (by omega), front, back]
  simp only [UInt8.ofNat_toNat]

theorem shortest_three (first : 0xE0 ≤ x.toNat ∧ x.toNat < 0xF0)
    (second : (if x.toNat = 0xE0 then 0xA0 else 0x80) ≤ y.toNat ∧
      y.toNat ≤ if x.toNat = 0xED then 0x9F else 0xBF)
    (third : 0x80 ≤ z.toNat ∧ z.toNat ≤ 0xBF) :
    String.utf8EncodeChar (Char.ofNat (((x.toNat - 0xE0) * 64 + (y.toNat - 0x80)) * 64 +
      (z.toNat - 0x80))) = [x, y, z] := by
  generalize same : ((x.toNat - 0xE0) * 64 + (y.toNat - 0x80)) * 64 + (z.toNat - 0x80) = value
  have within : 0x80 ≤ y.toNat ∧ y.toNat ≤ 0xBF := by split at second <;> split at second <;> omega
  have long : 2047 < value := by split at second <;> omega
  have valid : value.isValidChar := by
    unfold Nat.isValidChar
    split at second <;> split at second <;> omega
  have code : (Char.ofNat value).val.toNat = value := code_of_valid valid
  clear second
  have front : value / 4096 % 16 + 224 = x.toNat := by omega
  have middle : value / 64 % 64 + 128 = y.toNat := by omega
  have back : value % 64 + 128 = z.toNat := by omega
  rw [String.utf8EncodeChar, code, if_neg (by omega), if_neg (by omega), if_pos (by omega), front,
    middle, back]
  simp only [UInt8.ofNat_toNat]

theorem shortest_four (first : 0xF0 ≤ x.toNat ∧ x.toNat < 0xF5)
    (second : (if x.toNat = 0xF0 then 0x90 else 0x80) ≤ y.toNat ∧
      y.toNat ≤ if x.toNat = 0xF4 then 0x8F else 0xBF)
    (third : 0x80 ≤ z.toNat ∧ z.toNat ≤ 0xBF) (fourth : 0x80 ≤ w.toNat ∧ w.toNat ≤ 0xBF) :
    String.utf8EncodeChar (Char.ofNat ((((x.toNat - 0xF0) * 64 + (y.toNat - 0x80)) * 64 +
      (z.toNat - 0x80)) * 64 + (w.toNat - 0x80))) = [x, y, z, w] := by
  generalize same : (((x.toNat - 0xF0) * 64 + (y.toNat - 0x80)) * 64 + (z.toNat - 0x80)) * 64 +
    (w.toNat - 0x80) = value
  have within : 0x80 ≤ y.toNat ∧ y.toNat ≤ 0xBF := by split at second <;> split at second <;> omega
  have range : 65535 < value ∧ value < 0x110000 := by
    split at second <;> split at second <;> omega
  have code : (Char.ofNat value).val.toNat = value := code_of_valid (.inr (by omega))
  clear second
  have front : value / 262144 % 8 + 240 = x.toNat := by omega
  have next : value / 4096 % 64 + 128 = y.toNat := by omega
  have third : value / 64 % 64 + 128 = z.toNat := by omega
  have back : value % 64 + 128 = w.toNat := by omega
  rw [String.utf8EncodeChar, code, if_neg (by omega), if_neg (by omega), if_neg (by omega), front,
    next, third, back]
  simp only [UInt8.ofNat_toNat]

end

theorem encoded_of_spelt {octets : List UInt8} {c : Char} (spelt : Spells octets c) :
    String.utf8EncodeChar c = octets := by
  cases spelt with
  | @scalar x _ alone =>
    rcases octet_classes x with one | two | three | four | stray
    · rw [lead_scalar one] at alone
      rw [← Lead.scalar.inj alone]
      exact shortest_one one
    · rw [lead_two two.1 two.2] at alone
      cases alone
    · rw [lead_three three.1 three.2] at alone
      cases alone
    · rw [lead_four four.1 four.2] at alone
      cases alone
    · rw [lead_invalid stray] at alone
      cases alone
  | @sequence x opened rest _ first later =>
    rcases octet_classes x with one | two | three | four | stray
    · rw [lead_scalar one] at first
      cases first
    · rw [lead_two two.1 two.2] at first
      cases first
      obtain ⟨y, rfl, second, same⟩ := completes_one.mp later
      rw [same]
      exact shortest_two two second
    · rw [lead_three three.1 three.2] at first
      cases first
      obtain ⟨y, z, rfl, second, third, same⟩ := completes_two.mp later
      rw [same]
      exact shortest_three three second third
    · rw [lead_four four.1 four.2] at first
      cases first
      obtain ⟨y, z, w, rfl, second, third, fourth, same⟩ := completes_three.mp later
      rw [same]
      exact shortest_four four second third fourth
    · rw [lead_invalid stray] at first
      cases first

theorem spelt_of_encoded (c : Char) : Spells (String.utf8EncodeChar c) c := by
  have valid : c.val.toNat.isValidChar := c.valid
  have same : Char.ofNat c.val.toNat = c := Char.ofNat_toNat c
  rw [String.utf8EncodeChar]
  generalize c.val.toNat = value at valid same
  rw [← same]
  split
  · have x := octet_of_small (by omega : value < 256)
    refine .scalar ?_
    rw [lead_scalar (by omega), x]
  · have last := octet_of_small (by omega : value % 64 + 128 < 256)
    split
    · have first := octet_of_small (by omega : value / 64 % 32 + 192 < 256)
      refine .sequence (lead_two (by omega) (by omega)) (completes_one.mpr ⟨_, rfl, by omega, ?_⟩)
      exact congrArg Char.ofNat (by omega)
    · have middle := octet_of_small (by omega : value / 64 % 64 + 128 < 256)
      split
      · have first := octet_of_small (by omega : value / 4096 % 16 + 224 < 256)
        refine .sequence (lead_three (by omega) (by omega))
          (completes_two.mpr ⟨_, _, rfl, ⟨?_, ?_⟩, by omega, ?_⟩)
        · split <;> omega
        · split
          · rcases valid with below | above <;> omega
          · omega
        · exact congrArg Char.ofNat (by omega)
      · have first := octet_of_small (by omega : value / 262144 % 8 + 240 < 256)
        have second := octet_of_small (by omega : value / 4096 % 64 + 128 < 256)
        have bounded : value < 0x110000 := by rcases valid with below | above <;> omega
        refine .sequence (lead_four (by omega) (by omega))
          (completes_three.mpr ⟨_, _, _, rfl, ⟨?_, ?_⟩, by omega, by omega, ?_⟩)
        · split <;> omega
        · split <;> omega
        · exact congrArg Char.ofNat (by omega)

theorem opened_reads {octet : UInt8} {opened : Opened} (first : lead octet = .opens opened) :
    opened.read = 1 := by
  rcases octet_classes octet with one | two | three | four | stray
  · rw [lead_scalar one] at first
    cases first
  · rw [lead_two two.1 two.2] at first
    cases first
    rfl
  · rw [lead_three three.1 three.2] at first
    cases first
    rfl
  · rw [lead_four four.1 four.2] at first
    cases first
    rfl
  · rw [lead_invalid stray] at first
    cases first

-- What is read behind a character that stands in front.
def behind (c : Char) (read : Except Fault (List Char × Nat)) : Except Fault (List Char × Nat) :=
  read.map fun (text, open_) => (c :: text, open_)

theorem behind_ok {c : Char} {read : Except Fault (List Char × Nat)} {text : List Char}
    {open_ : Nat} (succeeded : behind c read = .ok (text, open_)) :
    ∃ more, text = c :: more ∧ read = .ok (more, open_) := by
  obtain ⟨⟨more, _⟩, found, same⟩ := map_ok.mp succeeded
  cases same
  exact ⟨more, rfl, found⟩

theorem scan_past_completed {opened : Opened} {back : List UInt8} {c : Char}
    (completes : Completes opened back c) (offset : Nat) (rest : List UInt8) :
    scan offset (some opened) (back ++ rest) =
      behind c (scan (offset + back.length) none rest) := by
  induction completes generalizing offset with
  | @last opened octet admitted single =>
    have within : (opened.low ≤ octet.toNat && octet.toNat ≤ opened.high) = true := by
      simpa [Opened.Admits] using admitted
    rw [List.singleton_append, scan]
    dsimp only
    rw [if_pos within, if_pos single]
    rfl
  | @more opened octet more c admitted several later ih =>
    have within : (opened.low ≤ octet.toNat && octet.toNat ≤ opened.high) = true := by
      simpa [Opened.Admits] using admitted
    rw [List.cons_append, scan]
    dsimp only
    rw [if_pos within, if_neg (by omega)]
    have further := ih (offset + 1)
    rw [Nat.add_assoc, Nat.add_comm 1] at further
    exact further

theorem scan_past_spelt {octets : List UInt8} {c : Char} (spelt : Spells octets c) (offset : Nat)
    (rest : List UInt8) :
    scan offset none (octets ++ rest) = behind c (scan (offset + octets.length) none rest) := by
  cases spelt with
  | scalar alone =>
    rw [List.singleton_append, scan]
    dsimp only
    rw [alone]
    rfl
  | @sequence octet opened more _ first later =>
    rw [List.cons_append, scan]
    dsimp only
    rw [first]
    have further := scan_past_completed later (offset + 1) rest
    rw [Nat.add_assoc, Nat.add_comm 1] at further
    exact further

theorem scan_of_encoded (text : List Char) (offset : Nat) :
    scan offset none (encode text) = .ok (text, 0) := by
  induction text generalizing offset with
  | nil => rfl
  | cons c text ih =>
    rw [encode, List.flatMap_cons, scan_past_spelt (spelt_of_encoded c)]
    exact congrArg (behind c) (ih _)

theorem scan_completed {octets : List UInt8} {opened : Opened} {offset : Nat} {text : List Char}
    (begun : 0 < opened.read) (read : scan offset (some opened) octets = .ok (text, 0)) :
    ∃ back rest c more later, octets = back ++ rest ∧ Completes opened back c ∧
      text = c :: more ∧ scan later none rest = .ok (more, 0) := by
  induction octets generalizing opened offset with
  | nil =>
    have ended : Except.ok ([], opened.read) = Except.ok (text, 0) := read
    have nothing : opened.read = 0 := congrArg Prod.snd (Except.ok.inj ended)
    omega
  | cons octet octets ih =>
    rw [scan] at read
    dsimp only at read
    split at read
    · rename_i within
      have admitted : opened.Admits octet := by simpa [Opened.Admits] using within
      split at read
      · rename_i single
        obtain ⟨more, rfl, scanned⟩ := behind_ok read
        exact ⟨[octet], octets, _, more, _, rfl, .last admitted single, rfl, scanned⟩
      · rename_i several
        obtain ⟨back, rest, c, more, later, rfl, completes, rfl, scanned⟩ := ih (by simp) read
        exact ⟨octet :: back, rest, c, more, later, rfl, .more admitted (by omega) completes, rfl,
          scanned⟩
    · cases read

theorem scan_begun {octets : List UInt8} {offset : Nat} {text : List Char}
    (read : scan offset none octets = .ok (text, 0)) :
    octets = [] ∧ text = [] ∨ ∃ front rest c more later, octets = front ++ rest ∧ Spells front c ∧
      text = c :: more ∧ scan later none rest = .ok (more, 0) := by
  cases octets with
  | nil =>
    cases read
    exact .inl ⟨rfl, rfl⟩
  | cons octet octets =>
    right
    rw [scan] at read
    dsimp only at read
    split at read
    · rename_i c alone
      obtain ⟨more, rfl, scanned⟩ := behind_ok read
      exact ⟨[octet], octets, c, more, _, rfl, .scalar alone, rfl, scanned⟩
    · rename_i opened first
      have begun : 0 < opened.read := by rw [opened_reads first]; omega
      obtain ⟨back, rest, c, more, later, rfl, completes, rfl, scanned⟩ := scan_completed begun read
      exact ⟨octet :: back, rest, c, more, later, rfl, .sequence first completes, rfl, scanned⟩
    · cases read

theorem encoded_of_scan {text : List Char} {octets : List UInt8} {offset : Nat}
    (read : scan offset none octets = .ok (text, 0)) : encode text = octets := by
  induction text generalizing octets offset with
  | nil =>
    rcases scan_begun read with ⟨rfl, _⟩ | ⟨_, _, _, _, _, _, _, impossible, _⟩
    · rfl
    · cases impossible
  | cons c text ih =>
    rcases scan_begun read with ⟨_, impossible⟩ | ⟨front, rest, _, _, later, rfl, spelt, same, scanned⟩
    · cases impossible
    · cases same
      rw [encode, List.flatMap_cons, encoded_of_spelt spelt]
      exact congrArg (front ++ ·) (ih scanned)

-- Octets are read as a text exactly if they are the text in its shortest form.
theorem decode_exact (octets : List UInt8) (text : List Char) :
    decode octets = .ok text ↔ encode text = octets := by
  constructor
  · intro decoded
    unfold decode at decoded
    split at decoded
    · cases decoded
    · rename_i read
      cases decoded
      exact encoded_of_scan read
    · cases decoded
  · intro encoded
    rw [← encoded, decode, scan_of_encoded]
    rfl

end Utf8

namespace Utf16

-- Characters above U+FFFF take two units, a high one and a low one.
def unitsOf (c : Char) : List Nat :=
  if c.toNat < 0x10000 then [c.toNat]
  else [0xD800 + (c.toNat - 0x10000) / 1024, 0xDC00 + (c.toNat - 0x10000) % 1024]

def Order.octets (order : Order) (unit : Nat) : List UInt8 :=
  match order with
  | .little => [UInt8.ofNat (unit % 256), UInt8.ofNat (unit / 256)]
  | .big => [UInt8.ofNat (unit / 256), UInt8.ofNat (unit % 256)]

def encode (order : Order) (text : List Char) : List UInt8 :=
  (text.flatMap unitsOf).flatMap order.octets

def IsUnit (unit : Nat) : Prop := unit < 0x10000

theorem units_past_unit {unit : Nat} (small : IsUnit unit) (order : Order) (rest : List UInt8) :
    units order (order.octets unit ++ rest) =
      (unit :: (units order rest).1, (units order rest).2) := by
  unfold IsUnit at small
  have high := octet_of_small (by omega : unit / 256 < 256)
  have low := octet_of_small (by omega : unit % 256 < 256)
  have whole : unit / 256 * 256 + unit % 256 = unit := by omega
  cases order with
  | little => simp only [Order.octets, List.cons_append, List.nil_append, units, Order.unit, high,
      low, whole]
  | big => simp only [Order.octets, List.cons_append, List.nil_append, units, Order.unit, high,
      low, whole]

theorem units_of_octets {codes : List Nat} (small : ∀ code ∈ codes, IsUnit code) (order : Order) :
    units order (codes.flatMap order.octets) = (codes, false) := by
  induction codes with
  | nil => rfl
  | cons code codes ih =>
    obtain ⟨here, later⟩ := List.forall_mem_cons.mp small
    rw [List.flatMap_cons, units_past_unit here, ih later]

theorem unit_apart (order : Order) (first second : UInt8) :
    IsUnit (order.unit first second) ∧ order.octets (order.unit first second) = [first, second] := by
  have one := first.toNat_lt
  have two := second.toNat_lt
  unfold IsUnit
  cases order with
  | little =>
    have high : (second.toNat * 256 + first.toNat) / 256 = second.toNat := by omega
    have low : (second.toNat * 256 + first.toNat) % 256 = first.toNat := by omega
    refine ⟨by simp only [Order.unit]; omega, ?_⟩
    simp only [Order.octets, Order.unit, high, low, UInt8.ofNat_toNat]
  | big =>
    have high : (first.toNat * 256 + second.toNat) / 256 = first.toNat := by omega
    have low : (first.toNat * 256 + second.toNat) % 256 = second.toNat := by omega
    refine ⟨by simp only [Order.unit]; omega, ?_⟩
    simp only [Order.octets, Order.unit, high, low, UInt8.ofNat_toNat]

theorem octets_of_units {order : Order} {octets : List UInt8} {codes : List Nat}
    (even : units order octets = (codes, false)) :
    codes.flatMap order.octets = octets ∧ ∀ code ∈ codes, IsUnit code := by
  induction octets using units.induct order generalizing codes with
  | case1 first second rest more odd parted ih =>
    rw [units, parted] at even
    cases even
    obtain ⟨joined, small⟩ := ih parted
    obtain ⟨within, apart⟩ := unit_apart order first second
    refine ⟨?_, List.forall_mem_cons.mpr ⟨within, small⟩⟩
    rw [List.flatMap_cons, apart, joined]
    rfl
  | case2 octet => cases even
  | case3 =>
    cases even
    exact ⟨rfl, by simp⟩

section
variable {unit high low : Nat}

theorem of_units_past_single (plain : ¬ (0xD800 ≤ unit ∧ unit < 0xE000)) (offset : Nat)
    (rest : List Nat) :
    ofUnits offset (unit :: rest) = (ofUnits (offset + 2) rest).map (Char.ofNat unit :: ·) := by
  have notHigh : isHigh unit = false := by simp [isHigh]; omega
  have notLow : isLow unit = false := by simp [isLow]; omega
  cases rest with
  | nil => simp [ofUnits, notHigh, notLow, Except.map]
  | cons next rest => simp [ofUnits, notHigh, notLow]

theorem of_units_past_pair (first : isHigh high = true) (second : isLow low = true) (offset : Nat)
    (rest : List Nat) :
    ofUnits offset (high :: low :: rest) = (ofUnits (offset + 4) rest).map (pair high low :: ·) := by
  simp [ofUnits, first, second]

end

theorem pair_of_units {c : Char} (beyond : ¬ c.toNat < 0x10000) :
    isHigh (0xD800 + (c.toNat - 0x10000) / 1024) = true ∧
    isLow (0xDC00 + (c.toNat - 0x10000) % 1024) = true ∧
    pair (0xD800 + (c.toNat - 0x10000) / 1024) (0xDC00 + (c.toNat - 0x10000) % 1024) = c := by
  have valid : c.toNat.isValidChar := c.valid
  have bounded : c.toNat < 0x110000 := by rcases valid with below | above <;> omega
  refine ⟨by simp [isHigh]; omega, by simp [isLow]; omega, ?_⟩
  rw [pair, ← Char.ofNat_toNat c]
  exact congrArg Char.ofNat (by rw [Char.ofNat_toNat]; omega)

theorem of_units_past_character (c : Char) (offset : Nat) (rest : List Nat) : ∃ later,
    ofUnits offset (unitsOf c ++ rest) = (ofUnits later rest).map (c :: ·) := by
  have valid : c.toNat.isValidChar := c.valid
  unfold unitsOf
  split
  · have plain : ¬ (0xD800 ≤ c.toNat ∧ c.toNat < 0xE000) := by
      rcases valid with below | above <;> omega
    have past := of_units_past_single plain offset rest
    rw [Char.ofNat_toNat] at past
    exact ⟨_, past⟩
  · rename_i beyond
    obtain ⟨high, low, paired⟩ := pair_of_units beyond
    have past := of_units_past_pair high low offset rest
    rw [paired] at past
    exact ⟨_, past⟩

theorem of_units_of_text (text : List Char) (offset : Nat) :
    ofUnits offset (text.flatMap unitsOf) = .ok text := by
  induction text generalizing offset with
  | nil => rfl
  | cons c text ih =>
    obtain ⟨later, past⟩ := of_units_past_character c offset (text.flatMap unitsOf)
    rw [List.flatMap_cons, past, ih later]
    rfl

theorem single_unit {unit : Nat} (small : IsUnit unit) (plain : ¬ (0xD800 ≤ unit ∧ unit < 0xE000)) :
    unitsOf (Char.ofNat unit) = [unit] := by
  unfold IsUnit at small
  have code : (Char.ofNat unit).toNat = unit := code_of_valid (by unfold Nat.isValidChar; omega)
  rw [unitsOf, code, if_pos small]

theorem paired_units {high low : Nat} (first : isHigh high = true) (second : isLow low = true) :
    unitsOf (pair high low) = [high, low] := by
  simp only [isHigh, isLow, Bool.and_eq_true, decide_eq_true_eq] at first second
  have code : (pair high low).toNat = 0x10000 + (high - 0xD800) * 1024 + (low - 0xDC00) :=
    code_of_valid (.inr (by omega))
  have front : 0xD800 + (0x10000 + (high - 0xD800) * 1024 + (low - 0xDC00) - 0x10000) / 1024 =
      high := by omega
  have back : 0xDC00 + (0x10000 + (high - 0xD800) * 1024 + (low - 0xDC00) - 0x10000) % 1024 =
      low := by omega
  rw [unitsOf, code, if_neg (by omega), front, back]

theorem text_of_units {codes : List Nat} {offset : Nat} {text : List Char}
    (small : ∀ code ∈ codes, IsUnit code) (read : ofUnits offset codes = .ok text) :
    text.flatMap unitsOf = codes := by
  have plain {unit : Nat} (high : ¬ isHigh unit = true) (low : ¬ isLow unit = true) :
      ¬ (0xD800 ≤ unit ∧ unit < 0xE000) := by
    simp only [isHigh, isLow, Bool.and_eq_true, decide_eq_true_eq] at high low
    omega
  induction offset, codes using ofUnits.induct generalizing text with
  | case1 offset =>
    cases read
    rfl
  | case2 offset unit high => simp [ofUnits, high] at read
  | case3 offset unit high low => simp [ofUnits, high, low] at read
  | case4 offset unit high low =>
    obtain ⟨here, _⟩ := List.forall_mem_cons.mp small
    rw [of_units_past_single (plain high low)] at read
    cases read
    rw [List.flatMap_singleton, single_unit here (plain high low)]
  | case5 offset unit next rest high low ih =>
    obtain ⟨_, _, later⟩ := List.forall_mem_cons.mp small |>.imp_right List.forall_mem_cons.mp
    rw [of_units_past_pair high low] at read
    obtain ⟨more, found, rfl⟩ := map_ok.mp read
    rw [List.flatMap_cons, paired_units high low, ih later found]
    rfl
  | case6 offset unit next rest high low => simp [ofUnits, high, low] at read
  | case7 offset unit next rest high low => simp [ofUnits, high, low] at read
  | case8 offset unit next rest high low ih =>
    obtain ⟨here, later⟩ := List.forall_mem_cons.mp small
    rw [of_units_past_single (plain high low)] at read
    obtain ⟨more, found, rfl⟩ := map_ok.mp read
    rw [List.flatMap_cons, single_unit here (plain high low), ih later found]
    rfl

theorem unit_small (c : Char) : ∀ unit ∈ unitsOf c, IsUnit unit := by
  have valid : c.toNat.isValidChar := c.valid
  have bounded : c.toNat < 0x110000 := by rcases valid with below | above <;> omega
  unfold unitsOf IsUnit
  intro unit member
  split at member
  · simp only [List.mem_singleton] at member
    omega
  · simp only [List.mem_cons, List.not_mem_nil, or_false] at member
    omega

theorem decode_exact (order : Order) (octets : List UInt8) (text : List Char) :
    decode order octets = .ok text ↔ encode order text = octets := by
  constructor
  · intro decoded
    unfold decode at decoded
    cases parted : units order octets with
    | mk codes odd =>
      rw [parted] at decoded
      dsimp only at decoded
      split at decoded
      · cases decoded
      · rename_i found read
        split at decoded
        · cases decoded
        · rename_i even
          cases decoded
          rw [Bool.not_eq_true] at even
          rw [even] at parted
          obtain ⟨joined, small⟩ := octets_of_units parted
          rw [encode, text_of_units small read, joined]
  · intro encoded
    have small : ∀ code ∈ text.flatMap unitsOf, IsUnit code := by
      intro code member
      obtain ⟨c, _, inside⟩ := List.mem_flatMap.mp member
      exact unit_small c code inside
    rw [← encoded, encode, decode, units_of_octets small]
    dsimp only
    rw [of_units_of_text]
    rfl

end Utf16
end RabbitRemote.Charset
