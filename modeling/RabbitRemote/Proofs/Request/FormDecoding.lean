import RabbitRemote.Codec
import RabbitRemote.Form
import RabbitRemote.Proofs.Text.Pieces

namespace RabbitRemote.Form

-- Figures of either case, as readers of forms take them.
def hexValue? (c : Char) : Option Nat :=
  let code := c.toNat
  if 0x30 ≤ code && code ≤ 0x39 then some (code - 0x30)
  else if 0x41 ≤ code && code ≤ 0x46 then some (code - 0x37)
  else if 0x61 ≤ code && code ≤ 0x66 then some (code - 0x57)
  else none

-- Reads a form value. A plus sign is a space, a per cent sign and two hexadecimal figures are an
-- octet, and any other ASCII character is its own octet.
def unescape? : List Char → Option (List UInt8)
  | [] => some []
  | '%' :: high :: low :: rest =>
    match hexValue? high, hexValue? low with
    | some first, some second => (unescape? rest).map (UInt8.ofNat (16 * first + second) :: ·)
    | _, _ => none
  | '+' :: rest => (unescape? rest).map (0x20 :: ·)
  | c :: rest =>
    if c ≠ '%' && c.toNat < 0x80 then (unescape? rest).map (UInt8.ofNat c.toNat :: ·) else none

def capital (figure : Nat) : Char := (Nat.digitChar figure).toUpper

theorem hex_value_of_capital : ∀ figure < 16, hexValue? (capital figure) = some figure := by
  decide

theorem capital_unreserved : ∀ figure < 16, isUnreserved (capital figure) = true := by
  decide

theorem capital_figures (octet : UInt8) : (Text.hexFigures 2 octet.toNat).map Char.toUpper =
    [capital (octet.toNat / 16), capital (octet.toNat % 16)] := by
  have small := octet.toNat_lt
  have high : octet.toNat / 16 % 16 = octet.toNat / 16 := Nat.mod_eq_of_lt (by omega)
  simp [Text.hexFigures, List.range_succ, capital, high]

theorem unreserved_code {c : Char} (unreserved : isUnreserved c = true) :
    0x2D ≤ c.toNat ∧ c.toNat ≤ 0x7E := by
  unfold isUnreserved Char.isAlphanum Char.isAlpha Char.isUpper Char.isLower Char.isDigit
    at unreserved
  simp only [Bool.or_eq_true, Bool.and_eq_true, decide_eq_true_eq] at unreserved
  change ((((((65 ≤ c.toNat ∧ c.toNat ≤ 90) ∨ (97 ≤ c.toNat ∧ c.toNat ≤ 122)) ∨
    (48 ≤ c.toNat ∧ c.toNat ≤ 57)) ∨ c = '_') ∨ c = '.') ∨ c = '-') ∨ c = '~' at unreserved
  rcases unreserved with (((((upper | lower) | figure) | rfl) | rfl) | rfl) | rfl
  · omega
  · omega
  · omega
  all_goals decide

-- No character of an escaped text means anything to a reader of addresses, and none is blank.
def isPlain (c : Char) : Bool := isUnreserved c || c = '+' || c = '%'

theorem escaped_octet_plain (octet : UInt8) : ∀ c ∈ escapeOctet octet, isPlain c = true := by
  have small := octet.toNat_lt
  intro c member
  unfold escapeOctet at member
  dsimp only at member
  split at member
  · rename_i unreserved
    have same := List.mem_singleton.mp member
    simp [isPlain, same, unreserved]
  · split at member
    · have same := List.mem_singleton.mp member
      simp [isPlain, same]
    · rw [capital_figures] at member
      simp only [List.mem_cons, List.not_mem_nil, or_false] at member
      rcases member with rfl | rfl | rfl
      · decide
      · simp [isPlain, capital_unreserved (octet.toNat / 16) (by omega)]
      · simp [isPlain, capital_unreserved (octet.toNat % 16) (by omega)]

theorem escaped_plain (octets : List UInt8) : ∀ c ∈ (escape octets).toList, isPlain c = true := by
  intro c member
  rw [escape, String.toList_ofList] at member
  obtain ⟨octet, _, inside⟩ := List.mem_flatMap.mp member
  exact escaped_octet_plain octet c inside

theorem plain_harmless {c : Char} (plain : isPlain c = true) :
    c ≠ '&' ∧ c ≠ '=' ∧ c ≠ '?' ∧ c ≠ '#' ∧ Text.isBlank c = false := by
  refine ⟨?_, ?_, ?_, ?_, ?_⟩
  case refine_5 =>
    simp only [isPlain, Bool.or_eq_true, decide_eq_true_eq] at plain
    rcases plain with (unreserved | rfl) | rfl
    · obtain ⟨low, high⟩ := unreserved_code unreserved
      exact Text.ascii_not_blank (by omega) (by omega)
    · decide
    · decide
  all_goals rintro rfl; exact absurd plain (by decide)

theorem unescape_unreserved {c : Char} (unreserved : isUnreserved c = true) (rest : List Char) :
    unescape? (c :: rest) = (unescape? rest).map (UInt8.ofNat c.toNat :: ·) := by
  have notPercent : c ≠ '%' := by rintro rfl; exact absurd unreserved (by decide)
  have notPlus : c ≠ '+' := by rintro rfl; exact absurd unreserved (by decide)
  have ascii : c.toNat < 0x80 := by
    have := unreserved_code unreserved
    omega
  rw [unescape?.eq_4 _ _ (fun _ _ _ same _ => notPercent same) notPlus]
  simp [notPercent, ascii]

-- Each octet is read back by itself, whatever follows it.
theorem unescape_escaped_octet (octet : UInt8) (rest : List Char) :
    unescape? (escapeOctet octet ++ rest) = (unescape? rest).map (octet :: ·) := by
  have small : octet.toNat < 256 := octet.toNat_lt
  have code := Codec.small_code_point octet.toNat small
  unfold escapeOctet
  dsimp only
  split
  · rename_i unreserved
    rw [List.singleton_append, unescape_unreserved unreserved, code, UInt8.ofNat_toNat]
  · split
    · rename_i space
      have value : octet.toNat = 32 := by rw [← code, space]; rfl
      have same : octet = 0x20 := UInt8.toNat_inj.mp value
      rw [same, List.singleton_append, unescape?]
    · have first := hex_value_of_capital (octet.toNat / 16) (by omega)
      have second := hex_value_of_capital (octet.toNat % 16) (by omega)
      have whole : 16 * (octet.toNat / 16) + octet.toNat % 16 = octet.toNat := Nat.div_add_mod _ 16
      simp [capital_figures, unescape?, first, second, whole]

theorem unescape_of_escaped (octets : List UInt8) :
    unescape? (escape octets).toList = some octets := by
  rw [escape, String.toList_ofList]
  induction octets with
  | nil => rfl
  | cons octet rest ih => rw [List.flatMap_cons, unescape_escaped_octet, ih, Option.map_some]

end RabbitRemote.Form
