import RabbitRemote.Proofs.Charset.Spelling
import RabbitRemote.Proofs.Request.Unsent

namespace RabbitRemote

-- Ways to write any text as octets, without a mark in front that tells which one it is.
inductive UnicodeForm where
  | utf8
  | utf16 (order : Charset.Utf16.Order)
deriving DecidableEq, Repr

namespace UnicodeForm
open Charset

def name : UnicodeForm → String
  | .utf8 => "utf-8"
  | .utf16 .little => "utf-16-le"
  | .utf16 .big => "utf-16-be"

def charset : UnicodeForm → Charset
  | .utf8 => .utf8
  | .utf16 .little => .utf16Little
  | .utf16 .big => .utf16Big

def encode : UnicodeForm → List Char → List UInt8
  | .utf8 => Utf8.encode
  | .utf16 order => Utf16.encode order

theorem own_name_known (form : UnicodeForm) :
    Charset.find? form.name = some (.text form.charset) := by
  cases form with
  | utf8 => decide +kernel
  | utf16 order => cases order <;> decide +kernel

theorem decode_exact (form : UnicodeForm) (octets : List UInt8) (text : List Char) :
    form.charset.decode octets = .ok text ↔ form.encode text = octets := by
  cases form with
  | utf8 => exact Utf8.decode_exact octets text
  | utf16 order => cases order with
    | little => exact Utf16.decode_exact .little octets text
    | big => exact Utf16.decode_exact .big octets text

end UnicodeForm

namespace Codec

-- The one octet that is sent for a character.
def SentAsOctet (c : Char) (octet : UInt8) : Prop :=
  octet.toNat = if c.toNat ≤ 0xFF then c.toNat else '?'.toNat

theorem service_octet_sent (c : Char) : SentAsOctet c (serviceOctet c) := by
  unfold SentAsOctet serviceOctet
  by_cases small : c.toNat < 256
  · rw [if_pos small, if_pos (by omega), UInt8.toNat_ofNat_of_lt' small]
  · rw [if_neg small, if_neg (by omega)]
    rfl

theorem service_octets_sent (text : List Char) : List.Forall₂ SentAsOctet text (toService text) := by
  rw [toService, List.forall₂_map_right_iff, List.forall₂_same]
  intro c _
  exact service_octet_sent c

theorem nothing_decoded (charset : Charset) : charset.decode [] = .ok [] := by
  cases charset <;> rfl

section
variable {codec : Codec} {charset : Charset} (reading : codec.reading = .text charset.decoder)
include reading

theorem outbound_of_decoded {octets : List UInt8} {text : List Char}
    (decoded : charset.decode octets = .ok text) :
    codec.outbound (.octets octets) = .ok (toService text) := by
  cases octets with
  | nil =>
    rw [nothing_decoded] at decoded
    cases decoded
    rfl
  | cons octet more => simp only [outbound, reading, Charset.decoder, decoded]

theorem outbound_of_undecodable {octets : List UInt8} {fault : Charset.Fault}
    (ill : charset.decode octets = .error fault) :
    codec.outbound (.octets octets) = .error (.undecodable codec.name fault.reason.text) := by
  have nonempty : octets ≠ [] := by
    rintro rfl
    rw [nothing_decoded] at ill
    cases ill
  have unread : charset.decoder octets = .error (.undecodable fault.reason.text) := by
    rw [Charset.decoder, ill]
  exact (decoding_fails reading nonempty).mpr ⟨_, unread, rfl⟩

end

-- Octets of the caller that are a text in a form of Unicode are sent as the text itself would be, one
-- octet for each character; all others are refused.
theorem octets_sent_as_text {others : Charset.Registry} {name : String} {codec : Codec}
    {form : UnicodeForm} (accepted : named others name = .ok codec)
    (meant : Charset.find? name = some (.text form.charset)) (octets : List UInt8) :
    (∀ text, form.encode text = octets → ∃ sent, codec.outbound (.octets octets) = .ok sent ∧
      codec.outbound (.text (String.ofList text)) = .ok sent ∧
      List.Forall₂ SentAsOctet text sent) ∧
    ((∀ text, form.encode text ≠ octets) → ∃ failure,
      codec.outbound (.octets octets) = .error failure ∧ failure.kind = .refusal) := by
  obtain ⟨_, known, _⟩ := (accepted_name_exact others name codec).mp accepted
  have reading : codec.reading = .text form.charset.decoder :=
    Option.some.inj (known.symm.trans (Charset.look_up_known others meant))
  constructor
  · intro text encoded
    have decoded := (form.decode_exact octets text).mpr encoded
    refine ⟨toService text, outbound_of_decoded reading decoded, ?_, service_octets_sent text⟩
    rw [outbound, String.toList_ofList]
  · intro ill
    cases decoded : form.charset.decode octets with
    | ok text => exact absurd ((form.decode_exact octets text).mp decoded) (ill text)
    | error fault => exact ⟨_, outbound_of_undecodable reading decoded, rfl⟩

-- A letter and a character of two units; then the first of these two units alone.
theorem octets_sent_as_text_in_pairs :
    let codec : Codec := ⟨"utf-16-le", .text (Charset.decoder .utf16Little)⟩
    let text := ['\u00e9', Char.ofNat 0x1F430]
    let octets : List UInt8 := [0xE9, 0x00, 0x3D, 0xD8, 0x30, 0xDC]
    let form : UnicodeForm := .utf16 .little
    named withUndefined "utf-16-le" = .ok codec ∧
    Charset.find? "utf-16-le" = some (.text form.charset) ∧
    form.encode text = octets ∧
    (∃ sent, codec.outbound (.octets octets) = .ok sent ∧
      codec.outbound (.text (String.ofList text)) = .ok sent ∧
      List.Forall₂ SentAsOctet text sent) ∧
    (∀ other, form.encode other ≠ [0x3D, 0xD8]) ∧
    ∃ failure, codec.outbound (.octets [0x3D, 0xD8]) = .error failure ∧ failure.kind = .refusal := by
  intro codec text octets form
  have meant : Charset.find? "utf-16-le" = some (.text form.charset) := form.own_name_known
  have accepted : named withUndefined "utf-16-le" = .ok codec :=
    (accepted_name_exact _ _ _).mpr ⟨by simp, Charset.look_up_known _ meant, rfl⟩
  have encoded : form.encode text = octets := by decide +kernel
  have ill : ∀ other, form.encode other ≠ [0x3D, 0xD8] := by
    intro other whole
    have unread : (form.charset.decode [0x3D, 0xD8]).toOption = none := by decide +kernel
    rw [(form.decode_exact _ _).mpr whole] at unread
    cases unread
  exact ⟨accepted, meant, encoded, (octets_sent_as_text accepted meant octets).1 text encoded, ill,
    (octets_sent_as_text accepted meant [0x3D, 0xD8]).2 ill⟩

end Codec
end RabbitRemote
