import Tollgate.Proofs.Text.Base64
import Tollgate.Proofs.Text.Form
import Tollgate.Proofs.Text.Trim
import Tollgate.Proofs.Tickets.OrderNumber
import Tollgate.Tunnel.Credentials
import Mathlib.Data.Bool.AllAny

/-!
# Reading basic credentials

A client sends the scheme, a blank and the encoding of its user name, a colon and its password. The
header that comes of this is visible ASCII whatever the password is, so it is always readable. The
scheme is known in any letter case, and the name ends at the first colon, so a name without colons
is read back.
-/

namespace Tollgate

namespace Text

/-- Visible characters of ASCII that are not blank. -/
def IsGraphic (c : Char) : Prop := 0x21 ≤ c.toNat ∧ c.toNat < 0x7F

instance (c : Char) : Decidable (IsGraphic c) := inferInstanceAs (Decidable (_ ∧ _))

namespace IsGraphic

variable {c : Char}

theorem ascii (h : IsGraphic c) : c.toNat < 128 := Nat.lt_trans h.2 (by decide)

theorem isBlank_eq_false (h : IsGraphic c) : isBlank c = false :=
  of_ascii (P := fun c => IsGraphic c → isBlank c = false) (by decide +kernel) h.ascii h

theorem ne_blank (h : IsGraphic c) : c ≠ ' ' := by
  rintro rfl
  exact absurd h (by decide)

/-- No other character has a letter of ASCII as its lower case. -/
theorem of_toLower (lower : IsGraphic c.toLower) : IsGraphic c := by
  by_cases ascii : c.toNat < 128
  · exact of_ascii (P := fun c => IsGraphic c.toLower → IsGraphic c) (by decide +kernel)
      ascii lower
  · have unchanged : c.toLower = c :=
      dif_neg fun upper => ascii (Nat.lt_of_le_of_lt upper.2 (by decide))
    rwa [unchanged] at lower

end IsGraphic

theorem trim_of_isGraphic {text : List Char} (graphic : ∀ c ∈ text, IsGraphic c) :
    trim text = text :=
  trim_eq_self (fun c first => (graphic c (List.mem_of_mem_head? first)).isBlank_eq_false)
    fun c last => (graphic c (List.mem_of_mem_getLast? last)).isBlank_eq_false

/-- A text in two parts with a blank between them has nothing to trim. -/
theorem trim_of_parts {front back : List Char} (front_ne : front ≠ []) (back_ne : back ≠ [])
    (frontGraphic : ∀ c ∈ front, IsGraphic c) (backGraphic : ∀ c ∈ back, IsGraphic c) :
    trim (front ++ ' ' :: back) = front ++ ' ' :: back := by
  obtain ⟨first, front, rfl⟩ := List.exists_cons_of_ne_nil front_ne
  apply trim_eq_self
  · intro c isFirst
    obtain rfl : first = c := Option.some.inj isFirst
    exact (frontGraphic first List.mem_cons_self).isBlank_eq_false
  · intro c isLast
    have atEnd : (first :: front ++ ' ' :: back).getLast? = back.getLast? := by
      rw [List.getLast?_append_of_ne_nil _ (List.cons_ne_nil ' ' back),
        List.getLast?_cons_of_ne_nil back_ne]
    rw [atEnd] at isLast
    exact (backGraphic c (List.mem_of_mem_getLast? isLast)).isBlank_eq_false

namespace Base64

variable {alphabet : Alphabet} {bytes : Octets}

theorem visible_of_mem_encode {byte : UInt8} (mem : byte ∈ encode alphabet bytes) :
    0x21 ≤ byte.toNat ∧ byte.toNat < 0x7F := by
  rcases mem_encode mem with ⟨bits, sixBits, rfl⟩ | ⟨missing, inFill⟩
  · have visible : ∀ bits < 64, 0x21 ≤ (symbol alphabet bits).toNat ∧
        (symbol alphabet bits).toNat < 0x7F := by
      cases alphabet <;> decide
    exact visible bits sixBits
  · rw [eq_padding_of_mem_fill inFill]
    decide

def encodeText (alphabet : Alphabet) (bytes : Octets) : String :=
  Octets.asciiText (encode alphabet bytes)

theorem ofText_encodeText (alphabet : Alphabet) (bytes : Octets) :
    Octets.ofText (encodeText alphabet bytes) = encode alphabet bytes :=
  Octets.ofText_asciiText fun _ mem => Nat.lt_trans (visible_of_mem_encode mem).2 (by decide)

theorem isGraphic_encodeText : ∀ c ∈ (encodeText alphabet bytes).toList, IsGraphic c := by
  intro c mem
  rw [encodeText, Octets.asciiText, String.toList_ofList] at mem
  obtain ⟨byte, isByte, rfl⟩ := List.mem_map.mp mem
  obtain ⟨above, below⟩ := visible_of_mem_encode isByte
  have graphic : ∀ n < 0x7F, 0x21 ≤ n → IsGraphic (Char.ofNat n) := by decide
  exact graphic byte.toNat below above

theorem encodeText_ne_nil (nonempty : bytes ≠ []) : (encodeText alphabet bytes).toList ≠ [] := by
  obtain ⟨byte, rest, rfl⟩ := List.exists_cons_of_ne_nil nonempty
  rw [encodeText, Octets.asciiText, String.toList_ofList]
  exact mt List.map_eq_nil_iff.mp (encode_ne_nil byte rest)

end Base64

end Text

/-- A header whose text is visible ASCII is readable. -/
theorem Http.Headers.text?_ofText {headers : Headers} {name text : String}
    (found : headers.find? name = some (Octets.ofText text))
    (visible : ∀ c ∈ text.toList, c = ' ' ∨ Text.IsGraphic c) : headers.text? name = some text := by
  have ascii : ∀ c ∈ text.toList, c.toNat < 128 := by
    intro c mem
    rcases visible c mem with rfl | graphic
    · decide
    · exact graphic.ascii
  rw [text?_of_visible found, Octets.text?_ofText]
  intro byte mem
  rw [Octets.ofText_of_ascii ascii] at mem
  obtain ⟨c, isChar, rfl⟩ := List.mem_map.mp mem
  exact Text.of_ascii
    (P := fun c => c = ' ' ∨ Text.IsGraphic c → 0x20 ≤ c.toNat.toUInt8 ∧ c.toNat.toUInt8 < 0x7F)
    (by decide +kernel) (ascii c isChar) (visible c isChar)

namespace Tunnel

variable {headers : Http.Headers} {scheme user : String}

def credentials (user password : String) : String := user ++ ":" ++ password

def basicHeader (scheme user password : String) : String :=
  scheme ++ " " ++ Text.Base64.encodeText .standard (Octets.ofText (credentials user password))

/-- The name of the scheme, in any letter case. -/
def IsBasic (scheme : String) : Prop := scheme.toList.map Char.toLower = "basic".toList

theorem IsBasic.ne_nil (basic : IsBasic scheme) : scheme.toList ≠ [] := by
  intro empty
  rw [IsBasic, empty] at basic
  exact absurd basic (by decide)

theorem IsBasic.isGraphic (basic : IsBasic scheme) : ∀ c ∈ scheme.toList, Text.IsGraphic c := by
  intro c mem
  have lower : c.toLower ∈ "basic".toList := by
    rw [← basic]
    exact List.mem_map_of_mem mem
  have graphic : ∀ c ∈ "basic".toList, Text.IsGraphic c := List.all_iff_forall_prop.mp (by decide)
  exact .of_toLower (graphic _ lower)

theorem toList_basicHeader (scheme user password : String) :
    (basicHeader scheme user password).toList =
      scheme.toList ++ ' ' :: (Text.Base64.encodeText .standard
        (Octets.ofText (credentials user password))).toList := by
  rw [basicHeader, String.toList_append, String.toList_append, List.append_assoc]
  rfl

/-- The name in front of the first colon. -/
theorem before_credentials (noColon : ':' ∉ user.toList) (password : String) :
    Text.before ':' (credentials user password).toList = user.toList := by
  rw [credentials, String.toList_append, String.toList_append, List.append_assoc]
  exact (Text.before_append user.toList password.toList).trans
    (Text.before_eq_self_iff.mpr noColon)

/-- The user name of basic credentials is read back, whatever the password is. -/
theorem tokenOfCredentials?_basicHeader (basic : IsBasic scheme) (nonempty : user ≠ "")
    (noColon : ':' ∉ user.toList) (password : String) :
    tokenOfCredentials? (basicHeader scheme user password) = some user := by
  have noBlank : ' ' ∉ scheme.toList := fun mem => (basic.isGraphic ' ' mem).ne_blank rfl
  have name := before_credentials noColon password
  -- From here on all that is known of the credentials is the name in front of their first colon.
  generalize credentials_eq : credentials user password = text at name
  have encoded_ne : (Text.Base64.encodeText .standard (Octets.ofText text)).toList ≠ [] := by
    apply Text.Base64.encodeText_ne_nil
    intro nothing
    obtain rfl : text = "" := Octets.ofText_inj.mp nothing
    exact nonempty (String.toList_eq_nil_iff.mp name.symm)
  have trimmed : Text.trim (basicHeader scheme user password).toList =
      (basicHeader scheme user password).toList := by
    rw [toList_basicHeader, credentials_eq]
    exact Text.trim_of_parts basic.ne_nil encoded_ne basic.isGraphic
      Text.Base64.isGraphic_encodeText
  rw [tokenOfCredentials?, trimmed, toList_basicHeader, Text.cut_append noBlank, credentials_eq]
  rw [IsBasic] at basic
  simp only [Option.bind_eq_bind, Option.bind_some, basic, ne_eq, not_true_eq_false, if_false,
    Text.trim_of_isGraphic Text.Base64.isGraphic_encodeText, String.ofList_toList,
    Text.Base64.ofText_encodeText, Text.Base64.decode_encode, Except.toOption,
    Octets.text?_ofText, name]
  split
  next empty => exact absurd (String.toList_eq_nil_iff.mp empty) nonempty
  next => rw [String.ofList_toList]

theorem proxyToken?_basicHeader (basic : IsBasic scheme) (nonempty : user ≠ "")
    (noColon : ':' ∉ user.toList) (password : String)
    (sent : headers.find? "proxy-authorization" =
      some (Octets.ofText (basicHeader scheme user password))) :
    proxyToken? headers = some user := by
  have visible : ∀ c ∈ (basicHeader scheme user password).toList, c = ' ' ∨ Text.IsGraphic c := by
    intro c mem
    rw [toList_basicHeader] at mem
    rcases List.mem_append.mp mem with inScheme | mem
    · exact Or.inr (basic.isGraphic c inScheme)
    · rcases List.mem_cons.mp mem with rfl | encoded
      · exact Or.inl rfl
      · exact Or.inr (Text.Base64.isGraphic_encodeText c encoded)
  rw [proxyToken?, Http.Headers.text?_ofText sent visible]
  exact tokenOfCredentials?_basicHeader basic nonempty noColon password

end Tunnel

end Tollgate
