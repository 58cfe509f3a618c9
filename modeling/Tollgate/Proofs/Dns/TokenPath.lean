import Tollgate.Dns.Doh
import Tollgate.Proofs.Text.Percent
import Tollgate.Proofs.Text.Trim

/-!
# Tokens in paths

Behind `/dns/` there is one segment, with slashes behind it or without, and the token is what the
segment stands for. So a segment is its own token exactly if it stands for itself. A token that is
put into a path as it is can only be read back from there if it is such a segment.
-/

namespace Tollgate

namespace Dns.Doh

open Text.Percent (meaning IsLiteral)

variable {segment token : String} {request : Http.Request}

/-- The token behind `/dns/` is what the one segment there stands for. -/
theorem pathToken?_tokenPath_append (text : String) :
    pathToken? (tokenPath ++ text) =
      if Text.dropEndWhile (· = '/') text.toList = [] ∨
          '/' ∈ Text.dropEndWhile (· = '/') text.toList then none
      else some (meaning (String.ofList (Text.dropEndWhile (· = '/') text.toList))) := by
  rw [pathToken?, String.toList_append, Text.dropStart?_append]
  simp [meaning]

theorem pathToken?_of_segment (nonempty : segment ≠ "") (whole : '/' ∉ segment.toList) :
    pathToken? (tokenPath ++ segment) = some (meaning segment) := by
  have bare : Text.dropEndWhile (· = '/') segment.toList = segment.toList :=
    Text.dropEndWhile_eq_self whole
  have someText : segment.toList ≠ [] := mt String.toList_eq_nil_iff.mp nonempty
  rw [pathToken?_tokenPath_append, bare, if_neg (by simp [someText, whole]), String.ofList_toList]

/-- A token is no longer than the segment that it comes from. -/
theorem utf8ByteSize_le_of_pathToken? {text : String}
    (read : pathToken? (tokenPath ++ text) = some token) :
    token.utf8ByteSize ≤
      (String.ofList (Text.dropEndWhile (· = '/') text.toList)).utf8ByteSize := by
  rw [pathToken?_tokenPath_append] at read
  split at read
  next => cases read
  next =>
      obtain rfl := Option.some.inj read
      exact Text.Percent.utf8ByteSize_meaning_le _

/-- A token can be read back from its path exactly if it is a segment that stands for itself. -/
theorem pathToken?_eq_self_iff :
    pathToken? (tokenPath ++ (token ++ "/")) = some token ↔
      token ≠ "" ∧ '/' ∉ token.toList ∧ IsLiteral token := by
  have slash : Text.dropEndWhile (· = '/') (token ++ "/").toList =
      Text.dropEndWhile (· = '/') token.toList := by
    rw [String.toList_append]
    exact Text.dropEndWhile_concat token.toList
  constructor
  · intro read
    have long := utf8ByteSize_le_of_pathToken? read
    rw [slash] at long
    have bare : Text.dropEndWhile (· = '/') token.toList = token.toList := by
      apply Text.eq_of_prefix (List.rdropWhile_prefix _ _)
      rwa [String.ofList_toList]
    rw [pathToken?_tokenPath_append, slash, bare, String.ofList_toList] at read
    split at read
    next => cases read
    next oneSegment =>
        obtain ⟨nonempty, whole⟩ := not_or.mp oneSegment
        refine ⟨?_, whole, Text.Percent.meaning_eq_self_iff.mp (Option.some.inj read)⟩
        rintro rfl
        exact nonempty rfl
  · rintro ⟨nonempty, whole, literal⟩
    have someText : token.toList ≠ [] := mt String.toList_eq_nil_iff.mp nonempty
    rw [pathToken?_tokenPath_append, slash, Text.dropEndWhile_eq_self whole,
      if_neg (by simp [someText, whole]), String.ofList_toList,
      Text.Percent.meaning_eq_self_iff.mpr literal]

theorem tokenPath_append_ne_hostPath (text : String) : tokenPath ++ text ≠ hostPath := by
  intro same
  have prefixes := congrArg (fun path => path.toList.take 5) same
  rw [String.toList_append] at prefixes
  simp [tokenPath, hostPath] at prefixes

/-- A target behind `/dns/` has the path that was written. -/
theorem path_of_rawPath {uri : Http.Uri} {text : String} (raw : uri.rawPath = tokenPath ++ text) :
    uri.path = tokenPath ++ text := by
  rw [← raw]
  apply Http.Uri.path_of_ne_empty
  rw [raw]
  simp [tokenPath]

/-- The token of a request to a path behind `/dns/`. -/
theorem token?_of_tokenPath {text : String} (path : request.uri.path = tokenPath ++ text) :
    token? request = (pathToken? (tokenPath ++ text)).map fun token => (some token, .path) := by
  rw [token?, path, if_neg (tokenPath_append_ne_hostPath text)]

end Dns.Doh

end Tollgate
