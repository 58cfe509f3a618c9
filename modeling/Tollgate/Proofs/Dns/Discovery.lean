import Tollgate.Proofs.Dns.TokenPath
import Tollgate.Text.Idna.Scripts

/-!
# Where discovery leads

A discovery answer gives clients a path to ask at, and they should be served there for the token
that they had. The answer holds the token as it is, but a path is read with its escapes undone, and
not every character can stand in one. `leads_back_iff` says which tokens a client is led back to. A
token that came in a path is answered only if it can be typed as a label, and of these the ASCII
ones are led back to.
-/

namespace Tollgate.Dns

open Text.Percent (IsLiteral)

/-- The path template in the service bindings of an answer. -/
def Message.dohPath? (message : Message) : Option Octets :=
  message.answers.findSome? fun record =>
    match record.data with
    | .binding _ _ params => params.lookup ServiceKey.dohPath
    | _ => none

namespace Discovery

/-- What stands in a path template for the parameters of a query. -/
def placeholder : String := "\x7b?dns\x7d"

/-- Requests to the path of a template, without its placeholder, carry a token in their path. -/
def LeadsTo (template : Octets) (token : String) : Prop :=
  ∃ path uri, template = Octets.ofText (path ++ placeholder) ∧ Http.Uri.ofText? path = some uri ∧
    ∀ request : Http.Request, request.uri = uri → Doh.token? request = some (some token, .path)

variable {request : Message} {question : Question} {token : String} {source : TokenSource}
variable {answer : Message} {idna : Text.Idna}

/-- The path of a token, as it is told to clients. -/
def pathOf (token : String) : String := Doh.tokenPath ++ (token ++ "/")

theorem pathTemplate_eq (token : String) : pathTemplate token = pathOf token ++ placeholder := by
  apply String.toList_inj.mp
  simp [pathTemplate, pathOf, placeholder, Doh.tokenPath, toString]

theorem dohPath?_of_answer? (found : answer? idna request question token source = some answer) :
    answer.dohPath? = some (Octets.ofText (pathTemplate token)) := by
  simp only [answer?, Option.bind_eq_bind, Option.bind_eq_some_iff, Option.pure_def,
    Option.some.injEq] at found
  obtain ⟨endpoints, -, rfl⟩ := found
  rfl

theorem leadsTo_pathTemplate_iff :
    LeadsTo (Octets.ofText (pathTemplate token)) token ↔
      ∃ uri, Http.Uri.ofText? (pathOf token) = some uri ∧
        ∀ request : Http.Request, request.uri = uri →
          Doh.token? request = some (some token, .path) := by
  rw [pathTemplate_eq]
  constructor
  · rintro ⟨path, uri, template_eq, rest⟩
    have same := congrArg String.toList (Octets.ofText_inj.mp template_eq)
    rw [String.toList_append, String.toList_append] at same
    obtain rfl := String.toList_inj.mp (List.append_cancel_right same)
    exact ⟨uri, rest⟩
  · rintro ⟨uri, rest⟩
    exact ⟨pathOf token, uri, rfl, rest⟩

theorem head?_pathOf (token : String) : (pathOf token).toList.head? = some '/' := by
  simp [pathOf, Doh.tokenPath]

theorem isPathChar_tokenPath : ∀ c ∈ Doh.tokenPath.toList, Http.Uri.isPathChar c = true :=
  List.all_eq_true.mp (by decide)

/-- A path is cut at the first character that ends it, so a token with such a character is cut. -/
theorem takeWhile_pathOf (token : String) :
    (pathOf token).toList.takeWhile (fun c => c ≠ '?' ∧ c ≠ '#') =
      Doh.tokenPath.toList ++
        (token.toList ++ ['/']).takeWhile (fun c => c ≠ '?' ∧ c ≠ '#') := by
  have slash : "/".toList = ['/'] := rfl
  rw [pathOf, String.toList_append, String.toList_append, slash]
  exact List.takeWhile_append_of_pos fun c mem =>
    decide_eq_true (Http.Uri.isPathChar_ne (isPathChar_tokenPath c mem))

/-- A token that is read back from the front of its path is there as a whole. -/
theorem takeWhile_of_pathToken?
    (read : Doh.pathToken? (Doh.tokenPath ++ String.ofList
      ((token.toList ++ ['/']).takeWhile fun c => c ≠ '?' ∧ c ≠ '#')) = some token) :
    (token.toList ++ ['/']).takeWhile (fun c => c ≠ '?' ∧ c ≠ '#') = token.toList ++ ['/'] := by
  rw [List.takeWhile_append] at read ⊢
  split at read
  next whole => rw [if_pos whole, List.takeWhile_cons_of_pos (by decide), List.takeWhile_nil]
  next cut =>
      -- a token that was cut is shorter than the one that is read
      refine absurd (congrArg List.length ?_) cut
      apply Text.eq_of_prefix (List.takeWhile_prefix _)
      have long := Doh.utf8ByteSize_le_of_pathToken? read
      rw [String.toList_ofList] at long
      rw [String.ofList_toList]
      exact long.trans (Text.utf8ByteSize_le_of_prefix (List.rdropWhile_prefix _ _))

/-- What a token needs to be read back from the path that is told: it is one segment that stands for
itself, a path may hold its characters, and the path is not too long for a target. -/
structure FitsPath (token : String) : Prop where
  nonempty : token ≠ ""
  legal : ∀ c ∈ token.toList, Http.Uri.isPathChar c = true ∧ c ≠ '/'
  literal : IsLiteral token
  short : (pathOf token).utf8ByteSize ≤ Http.Uri.maxLength

theorem FitsPath.isPathChar (h : FitsPath token) :
    ∀ c ∈ (pathOf token).toList, Http.Uri.isPathChar c = true := by
  intro c mem
  rw [pathOf, String.toList_append, String.toList_append] at mem
  rcases List.mem_append.mp mem with front | mem
  · exact isPathChar_tokenPath c front
  · rcases List.mem_append.mp mem with inToken | slash
    · exact (h.legal c inToken).1
    · obtain rfl : c = '/' := by simpa using slash
      decide

theorem FitsPath.leadsTo (h : FitsPath token) :
    LeadsTo (Octets.ofText (pathTemplate token)) token := by
  refine leadsTo_pathTemplate_iff.mpr
    ⟨_, Http.Uri.ofText?_path (head?_pathOf token) h.short h.isPathChar, ?_⟩
  intro request uri_eq
  have whole : '/' ∉ token.toList := fun slash => (h.legal '/' slash).2 rfl
  have read := Doh.pathToken?_eq_self_iff.mpr ⟨h.nonempty, whole, h.literal⟩
  have path_eq : request.uri.path = pathOf token := Doh.path_of_rawPath (by rw [uri_eq]; rfl)
  rw [Doh.token?_of_tokenPath path_eq, read]
  rfl

theorem LeadsTo.fitsPath (h : LeadsTo (Octets.ofText (pathTemplate token)) token) :
    FitsPath token := by
  obtain ⟨uri, target, leads⟩ := leadsTo_pathTemplate_iff.mp h
  obtain ⟨short, rawPath_eq, legal⟩ := Http.Uri.of_ofText?_of_slash (head?_pathOf token) target
  rw [takeWhile_pathOf, String.ofList_append, String.ofList_toList] at rawPath_eq
  have named := leads ⟨"GET", uri, false, [], none, []⟩ rfl
  rw [Doh.token?_of_tokenPath (Doh.path_of_rawPath rawPath_eq)] at named
  obtain ⟨_, read, isToken⟩ := Option.map_eq_some_iff.mp named
  cases isToken
  have slash : String.ofList (token.toList ++ ['/']) = token ++ "/" := by
    rw [String.ofList_append, String.ofList_toList]
  rw [takeWhile_of_pathToken? read, slash] at rawPath_eq read
  obtain ⟨nonempty, whole, literal⟩ := Doh.pathToken?_eq_self_iff.mp read
  refine ⟨nonempty, ?_, literal, short⟩
  intro c mem
  constructor
  · apply legal c
    rw [rawPath_eq]
    simp [mem]
  · rintro rfl
    exact whole mem

theorem leadsTo_iff :
    LeadsTo (Octets.ofText (pathTemplate token)) token ↔ FitsPath token :=
  ⟨LeadsTo.fitsPath, FitsPath.leadsTo⟩

/-- A token of a path that is answered can be typed as a label. -/
theorem exists_label_of_answer? (found : answer? idna request question token .path = some answer) :
    ∃ label, Label.ofText? idna token.toList = some label := by
  simp only [answer?, Option.bind_eq_bind, Option.bind_eq_some_iff] at found
  obtain ⟨endpoints, named, -⟩ := found
  obtain ⟨tls, prepended, -⟩ := Option.map_eq_some_iff.mp named
  obtain ⟨label, typed, -⟩ := Option.bind_eq_some_iff.mp prepended
  exact ⟨label, typed⟩

/-- Characters of typed labels can stand in a path, and none of them ends a segment or starts an
escape. -/
theorem isPathChar_of_isTyped {c : Char} (ascii : c.toNat < 128) :
    Label.isTyped c = true → Http.Uri.isPathChar c = true ∧ c ≠ '/' ∧ c ≠ '%' :=
  Text.of_ascii (P := fun c => Label.isTyped c = true →
    Http.Uri.isPathChar c = true ∧ c ≠ '/' ∧ c ≠ '%') (by decide +kernel) ascii

theorem isAscii_of_isPathChar {c : Char} (h : Http.Uri.isPathChar c = true) : c.toNat < 128 := by
  simp only [Http.Uri.isPathChar, Bool.or_eq_true, Bool.and_eq_true, decide_eq_true_eq] at h
  have marks : c = '"' ∨ c = '\x7b' ∨ c = '\x7d' → c.toNat < 128 := by
    rintro (rfl | rfl | rfl) <;> decide
  by_cases isMark : c = '"' ∨ c = '\x7b' ∨ c = '\x7d'
  · exact marks isMark
  · simp only [not_or] at isMark
    simp only [isMark, or_false] at h
    omega

/-- An ASCII token that can be typed as a label fits its path. -/
theorem fitsPath_of_label {label : Label} (ascii : ∀ c ∈ token.toList, c.toNat < 128)
    (typed : Label.ofText? idna token.toList = some label) : FitsPath token := by
  obtain ⟨nonempty, length_le, allTyped⟩ := Label.isTyped_of_ofText? ascii typed
  have legal := fun c mem => isPathChar_of_isTyped (ascii c mem) (allTyped c mem)
  constructor
  case nonempty => exact mt String.toList_eq_nil_iff.mpr nonempty
  case legal =>
    intro c mem
    exact ⟨(legal c mem).1, (legal c mem).2.1⟩
  case literal =>
    intro escaped
    have plain : '%' ∉ token.toList := fun mem => (legal '%' mem).2.2 rfl
    exact absurd escaped (Text.Percent.not_hasEscape_of_ascii ascii plain)
  case short =>
    have octets : token.utf8ByteSize ≤ Label.maxLength := by
      rw [← Octets.length_ofText, Octets.ofText_of_ascii ascii, List.length_map]
      exact length_le
    have front : Doh.tokenPath.utf8ByteSize = 5 := by decide
    have slash : "/".utf8ByteSize = 1 := by decide
    rw [Label.maxLength] at octets
    rw [pathOf, String.utf8ByteSize_append, String.utf8ByteSize_append, Http.Uri.maxLength]
    omega

/-- Of the tokens of paths that are answered, the ASCII ones are led back to. -/
theorem leadsTo_iff_ascii (found : answer? idna request question token .path = some answer) :
    LeadsTo (Octets.ofText (pathTemplate token)) token ↔ ∀ c ∈ token.toList, c.toNat < 128 := by
  rw [leadsTo_iff]
  constructor
  · intro fits c mem
    exact isAscii_of_isPathChar (fits.legal c mem).1
  · intro ascii
    obtain ⟨label, typed⟩ := exists_label_of_answer? found
    exact fitsPath_of_label ascii typed

/-- Where a discovery answer leads. It tells one path template, whose path carries its token exactly
if the token fits it: the token is a segment that stands for itself, of characters that a path may
hold, and is not too long for a target. For a token that came in a path, an answer is only given if
the token can be typed as a label, and then it leads back exactly if the token is ASCII. -/
theorem leads_back_iff (found : answer? idna request question token source = some answer) :
    ∃ template, answer.dohPath? = some template ∧ (LeadsTo template token ↔ FitsPath token) ∧
      (source = .path → (LeadsTo template token ↔ ∀ c ∈ token.toList, c.toNat < 128)) := by
  refine ⟨_, dohPath?_of_answer? found, leadsTo_iff, ?_⟩
  rintro rfl
  exact leadsTo_iff_ascii found

/-- The question for the endpoints of `gw`. -/
def askedForGw : Question :=
  ⟨⟨[discoveryLabel, Octets.ofText "gw"], true⟩, RecordType.serviceBinding, 1⟩

def askingForGw : Message where
  header := ⟨1, false, 0, false, false, true, false, false, false, 0⟩
  questions := [askedForGw]
  answers := []
  authorities := []
  additionals := []
  edns := none

/-- A token in plain letters is led back to. -/
theorem plain_token_led_back :
    ∃ answer template, answer? .scripts askingForGw askedForGw "tok" .path = some answer ∧
      answer.dohPath? = some template ∧ LeadsTo template "tok" := by
  have answered : (answer? .scripts askingForGw askedForGw "tok" .path).isSome = true := by
    decide +kernel
  obtain ⟨answer, found⟩ := Option.isSome_iff_exists.mp answered
  obtain ⟨template, told, -, ascii⟩ := leads_back_iff found
  exact ⟨answer, template, found, told, (ascii rfl).mpr (by simp)⟩

/-- The token `é` of a path is led nowhere, since no path can hold it as it is. The token `%41` of
the same host is led to the token `A`. -/
theorem tokens_led_astray :
    (Doh.pathToken? "/dns/%C3%A9" = some "é" ∧
      ∃ answer template, answer? .scripts askingForGw askedForGw "é" .path = some answer ∧
        answer.dohPath? = some template ∧ ¬ LeadsTo template "é") ∧
    (Doh.pathToken? "/dns/%2541" = some "%41" ∧
      ∃ answer template, answer? .scripts askingForGw askedForGw "%41" .host = some answer ∧
        answer.dohPath? = some template ∧ ¬ LeadsTo template "%41" ∧ LeadsTo template "A") := by
  have foreign_answered : (answer? .scripts askingForGw askedForGw "é" .path).isSome = true := by
    decide +kernel
  have escaped_answered : (answer? .scripts askingForGw askedForGw "%41" .host).isSome = true := by
    decide +kernel
  obtain ⟨foreign, foreign_found⟩ := Option.isSome_iff_exists.mp foreign_answered
  obtain ⟨escaped, escaped_found⟩ := Option.isSome_iff_exists.mp escaped_answered
  constructor
  · refine ⟨by decide +kernel, foreign, _, foreign_found, dohPath?_of_answer? foreign_found, ?_⟩
    rw [leadsTo_iff_ascii foreign_found]
    intro ascii
    exact absurd (ascii 'é' (by simp)) (by decide)
  · refine ⟨by decide +kernel, escaped, _, escaped_found, dohPath?_of_answer? escaped_found, ?_, ?_⟩
    · rw [leadsTo_iff]
      intro fits
      exact absurd (Text.Percent.meaning_eq_self_iff.mpr fits.literal) (by decide +kernel)
    · refine ⟨pathOf "%41", ⟨none, none, pathOf "%41", none⟩, by rw [pathTemplate_eq],
        by decide +kernel, ?_⟩
      intro request uri_eq
      have path_eq : request.uri.path = Doh.tokenPath ++ ("%41" ++ "/") := by
        rw [uri_eq]
        decide +kernel
      rw [Doh.token?_of_tokenPath path_eq]
      decide +kernel

end Discovery

end Tollgate.Dns
