import Tollgate.Proofs.Dns.BlockedDomains
import Tollgate.Proofs.Text.Trim

/-!
# What the lines of a blocklist mean

The domain that a line means is what is left of it without the comment, without one qualifier and
without the blanks around the rest. What is loaded is another text in general: the blanks are taken
off before the qualifier is, so that one behind the qualifier becomes a part of the domain, and of
several colons the last one ends the qualifier. The two are one for the lines that `IsTidy` tells,
and for all other lines different names are blocked.
-/

namespace Tollgate.Dns.Blocklist

open Text (isBlank Trimmed)

variable {line text rest loaded meant : List Char}

/-! ## Lines -/

/-- The text of a line in front of its comment, if there is one. -/
inductive Uncommented : (line text : List Char) → Prop where
  | whole {text : List Char} (absent : '#' ∉ text) : Uncommented text text
  | cut {text : List Char} (absent : '#' ∉ text) (comment : List Char) :
      Uncommented (text ++ '#' :: comment) text

/-- A text without its qualifier, if there is one. -/
inductive Unqualified : (text rest : List Char) → Prop where
  | whole {text : List Char} (absent : ':' ∉ text) : Unqualified text text
  | cut {kind : List Char} (absent : ':' ∉ kind) (rest : List Char) :
      Unqualified (kind ++ ':' :: rest) rest

/-- The text behind the last colon, if there is one. -/
inductive BehindColons : (text rest : List Char) → Prop where
  | whole {text : List Char} (absent : ':' ∉ text) : BehindColons text text
  | cut (front : List Char) {rest : List Char} (absent : ':' ∉ rest) :
      BehindColons (front ++ ':' :: rest) rest

/-- The domain that a line means. -/
inductive Means (line domain : List Char) : Prop where
  | intro {text rest : List Char} (uncommented : Uncommented line text)
      (unqualified : Unqualified text rest) (trimmed : Trimmed rest domain)

/-- The domain that is loaded from a line. -/
inductive Loads (line domain : List Char) : Prop where
  | intro {text entry : List Char} (uncommented : Uncommented line text)
      (trimmed : Trimmed text entry) (behind : BehindColons entry domain)

/-- A line has no qualifier, or one, behind which there is no other colon, and at once the domain if
there is any. -/
inductive IsTidy (line : List Char) : Prop where
  | bare {text : List Char} (uncommented : Uncommented line text) (absent : ':' ∉ text)
  | qualified {kind domain behind : List Char}
      (uncommented : Uncommented line (kind ++ ':' :: (domain ++ behind)))
      (kind_absent : ':' ∉ kind) (absent : ':' ∉ domain)
      (starts : ∀ c ∈ domain.head?, isBlank c = false) (blank : ∀ c ∈ behind, isBlank c = true)

theorem uncommented_iff : Uncommented line text ↔ Text.before '#' line = text := by
  constructor
  · rintro (absent | absent)
    · exact Text.before_eq_self_iff.mpr absent
    · exact (Text.before_append text _).trans (Text.before_eq_self_iff.mpr absent)
  · rintro rfl
    by_cases mem : '#' ∈ line
    · obtain ⟨text, comment, rfl, absent⟩ := List.eq_append_cons_of_mem mem
      rw [Text.before_append, Text.before_eq_self_iff.mpr absent]
      exact .cut absent comment
    · rw [Text.before_eq_self_iff.mpr mem]
      exact .whole mem

theorem behindColons_iff : BehindColons text rest ↔ Text.afterLast ':' text = rest := by
  constructor
  · rintro (absent | ⟨front, absent⟩)
    · exact Text.afterLast_eq_self absent
    · exact Text.afterLast_append front absent
  · rintro rfl
    by_cases mem : ':' ∈ text
    · obtain ⟨front, rest, rfl, absent⟩ := Text.exists_last mem
      rw [Text.afterLast_append front absent]
      exact .cut front absent
    · rw [Text.afterLast_eq_self mem]
      exact .whole mem

theorem loads_iff :
    Loads line loaded ↔ Text.afterLast ':' (Text.trim (Text.before '#' line)) = loaded := by
  constructor
  · rintro ⟨uncommented, trimmed, behind⟩
    rw [uncommented_iff.mp uncommented, trimmed.trim_eq, behindColons_iff.mp behind]
  · intro behind
    exact ⟨uncommented_iff.mpr rfl, Text.trimmed_trim _, behindColons_iff.mpr behind⟩

theorem Unqualified.unique {other : List Char} (h : Unqualified text rest)
    (h' : Unqualified text other) : rest = other := by
  cases h with
  | whole absent =>
      cases h' with
      | whole _ => rfl
      | cut _ _ => exact absurd (List.mem_append_right _ List.mem_cons_self) absent
  | @cut kind absent rest =>
      generalize parts : kind ++ ':' :: rest = text at h'
      cases h' with
      | whole absent' =>
          exact absurd (parts ▸ List.mem_append_right kind List.mem_cons_self) absent'
      | cut absent' other =>
          have first := Text.cut_append absent rest
          rw [parts, Text.cut_append absent' other] at first
          exact (Prod.mk.inj (Option.some.inj first)).2.symm

theorem exists_unqualified (text : List Char) : ∃ rest, Unqualified text rest := by
  by_cases mem : ':' ∈ text
  · obtain ⟨kind, rest, rfl, absent⟩ := List.eq_append_cons_of_mem mem
    exact ⟨rest, .cut absent rest⟩
  · exact ⟨text, .whole mem⟩

theorem exists_means (line : List Char) : ∃ domain, Means line domain := by
  obtain ⟨rest, unqualified⟩ := exists_unqualified (Text.before '#' line)
  exact ⟨_, uncommented_iff.mpr rfl, unqualified, Text.trimmed_trim rest⟩

theorem Means.unique {other : List Char} (h : Means line meant) (h' : Means line other) :
    meant = other := by
  obtain ⟨uncommented, unqualified, trimmed⟩ := h
  obtain ⟨uncommented', unqualified', trimmed'⟩ := h'
  obtain rfl := (uncommented_iff.mp uncommented).symm.trans (uncommented_iff.mp uncommented')
  obtain rfl := unqualified.unique unqualified'
  exact trimmed.trim_eq.symm.trans trimmed'.trim_eq

/-! ## The two readings -/

/-- With one colon, what is loaded is all that stands behind it up to the blanks at the end. -/
theorem afterLast_trim {kind : List Char} (absent : ':' ∉ rest) :
    Text.afterLast ':' (Text.trim (kind ++ ':' :: rest)) = Text.dropEndWhile isBlank rest := by
  obtain ⟨behind, parts, -⟩ := Text.exists_dropEndWhile_append isBlank rest
  have absent_kept : ':' ∉ Text.dropEndWhile isBlank rest :=
    fun mem => absent (parts ▸ List.mem_append_left behind mem)
  rw [Text.trim_append_cons (by decide), Text.afterLast_append _ absent_kept]

/-- Where no blank stands in front of a domain, trimming is done at its end only. -/
theorem trim_of_starts {domain behind : List Char} (starts : ∀ c ∈ domain.head?, isBlank c = false)
    (blank : ∀ c ∈ behind, isBlank c = true) :
    Text.trim (domain ++ behind) = Text.dropEndWhile isBlank (domain ++ behind) := by
  cases domain with
  | nil => rw [List.nil_append, Text.trim_eq_nil blank, Text.dropEndWhile_eq_nil_iff.mpr blank]
  | cons c domain =>
      rw [Text.trim, List.cons_append, List.dropWhile_cons_of_neg]
      rw [starts c rfl]
      exact Bool.false_ne_true

/-- What a tidy line means is what is loaded from it. -/
theorem IsTidy.loads_meant (tidy : IsTidy line) (h : Means line meant) : Loads line meant := by
  obtain ⟨uncommented, unqualified, trimmed⟩ := h
  obtain rfl := uncommented_iff.mp uncommented
  cases tidy with
  | bare uncommented' absent =>
      obtain rfl := uncommented_iff.mp uncommented'
      obtain rfl := unqualified.unique (.whole absent)
      obtain ⟨front, behind, parts, -, -⟩ := trimmed.surrounded
      have absent_meant : ':' ∉ meant := by
        rw [parts] at absent
        exact fun mem => absent (List.mem_append_left _ (List.mem_append_right _ mem))
      exact ⟨uncommented, trimmed, .whole absent_meant⟩
  | qualified uncommented' kind_absent absent starts blank =>
      rename_i kind domain behind
      have text_eq := uncommented_iff.mp uncommented'
      rw [text_eq] at unqualified
      obtain rfl := unqualified.unique (.cut kind_absent _)
      have absent_rest : ':' ∉ domain ++ behind := by
        intro mem
        rcases List.mem_append.mp mem with mem | mem
        · exact absent mem
        · exact absurd (blank ':' mem) (by decide)
      rw [loads_iff, text_eq, afterLast_trim absent_rest, ← trim_of_starts starts blank,
        trimmed.trim_eq]

/-- A line with one colon is tidy unless there is a blank between the colon and the domain. -/
theorem isTidy_or_blank {kind : List Char} (uncommented : Uncommented line (kind ++ ':' :: rest))
    (kind_absent : ':' ∉ kind) (absent : ':' ∉ rest) :
    IsTidy line ∨ ∃ blank front, isBlank blank = true ∧
      Text.dropEndWhile isBlank rest = blank :: front ++ Text.trim rest := by
  rcases Text.all_or_exists_first isBlank rest with
    blank | ⟨front, c, back, rfl, front_blank, other⟩
  · exact Or.inl
      (@IsTidy.qualified _ kind [] rest uncommented kind_absent List.not_mem_nil nofun blank)
  cases front with
  | nil =>
      obtain ⟨behind, parts, behind_blank⟩ := Text.exists_dropEndWhile_append isBlank back
      rw [List.nil_append, ← parts] at uncommented absent
      refine Or.inl (@IsTidy.qualified _ kind (c :: Text.dropEndWhile isBlank back) behind
        uncommented kind_absent ?_ ?_ behind_blank)
      · exact fun mem => absent (List.mem_append_left behind mem)
      · rintro first ⟨⟩
        exact other
  | cons blank front =>
      refine Or.inr ⟨blank, front, front_blank blank List.mem_cons_self, ?_⟩
      rw [Text.dropEndWhile_append_cons other, Text.trim_append_cons other,
        List.dropWhile_eq_nil_iff.mpr front_blank, List.nil_append]

theorem IsTidy.means_loaded (tidy : IsTidy line) (loads : Loads line loaded) :
    Means line loaded := by
  obtain ⟨meant, h⟩ := exists_means line
  rwa [← loads_iff.mp loads, loads_iff.mp (tidy.loads_meant h)]

/-- In a line that is not tidy, one of the readings begins with something that the other one has
not, and that is not all dots. -/
theorem exists_extra_of_not_isTidy (untidy : ¬ IsTidy line) (loads : Loads line loaded)
    (h : Means line meant) :
    ∃ extra, (∃ c ∈ extra, c ≠ '.') ∧ (loaded = extra ++ meant ∨ meant = extra ++ loaded) := by
  obtain @⟨text, rest, uncommented, unqualified, trimmed⟩ := h
  rw [loads_iff, uncommented_iff.mp uncommented] at loads
  cases unqualified with
  | whole absent => exact absurd (.bare uncommented absent) untidy
  | @cut kind kind_absent =>
      by_cases mem : ':' ∈ rest
      · obtain ⟨middle, last, rfl, absent⟩ := Text.exists_last mem
        refine ⟨middle.dropWhile isBlank ++ [':'], ⟨':', by simp, by decide⟩, Or.inr ?_⟩
        rw [← List.cons_append, ← List.append_assoc, afterLast_trim absent] at loads
        rw [← trimmed.trim_eq, Text.trim_append_cons (by decide), ← loads, List.append_assoc,
          List.singleton_append]
      · rw [afterLast_trim mem] at loads
        obtain tidy | ⟨blank, front, is_blank, parts⟩ := isTidy_or_blank uncommented kind_absent mem
        · exact absurd tidy untidy
        refine ⟨blank :: front, ⟨blank, List.mem_cons_self, ?_⟩, Or.inl ?_⟩
        · rintro rfl
          exact absurd is_blank (by decide)
        · rw [← loads, parts, trimmed.trim_eq]

/-! ## Names -/

theorem flatten_labelsOf (text : List Char) :
    ((labelsOf text).map String.toList).flatten =
      (text.filter (· ≠ '.')).map Char.toLower := by
  have chars : (String.toList ∘ fun label : List Char => String.ofList (label.map Char.toLower)) =
      List.map Char.toLower := by
    funext label
    rw [Function.comp_apply, String.toList_ofList]
  rw [labelsOf, List.map_map, chars, ← List.map_flatten, List.flatten_filter_ne_nil,
    ← Text.split_eq_splitOn, Text.flatten_split]

/-- Only dots can be put in front of a domain that is to stay the same. -/
theorem eq_dot_of_labelsOf_append {extra : List Char}
    (same : labelsOf (extra ++ text) = labelsOf text) : ∀ c ∈ extra, c = '.' := by
  have chars := flatten_labelsOf (extra ++ text)
  rw [same, flatten_labelsOf, List.filter_append, List.map_append] at chars
  have none_kept := List.map_eq_nil_iff.mp (List.self_eq_append_left.mp chars)
  intro c mem
  by_contra other
  exact List.filter_eq_nil_iff.mp none_kept c mem (decide_eq_true other)

theorem isTidy_iff (loads : Loads line loaded) (h : Means line meant) :
    IsTidy line ↔ labelsOf loaded = labelsOf meant := by
  constructor
  · intro tidy
    rw [← loads_iff.mp loads, loads_iff.mp (tidy.loads_meant h)]
  · intro same
    by_contra untidy
    obtain ⟨extra, ⟨c, mem, other⟩, rfl | rfl⟩ := exists_extra_of_not_isTidy untidy loads h
    · exact other (eq_dot_of_labelsOf_append same c mem)
    · exact other (eq_dot_of_labelsOf_append same.symm c mem)

/-- Domains cover the same names exactly if they have the same labels. -/
theorem covers_iff_covers_iff {domain other : List Char} :
    (∀ name, Covers domain name ↔ Covers other name) ↔ labelsOf domain = labelsOf other := by
  constructor
  · intro agree
    by_cases none : labelsOf domain = []
    · by_contra different
      have other_nonempty : labelsOf other ≠ [] := fun none' => different (none.trans none'.symm)
      exact ((agree _).mpr (covers_self other_nonempty)).nonempty none
    · have below := (agree _).mp (covers_self none)
      have above := (agree _).mpr (covers_self below.nonempty)
      have below_suffix := below.isSuffix
      have above_suffix := above.isSuffix
      rw [String.toList_ofList] at below_suffix above_suffix
      exact above_suffix.eq_of_length_le below_suffix.length_le
  · intro same name
    constructor
    · rintro ⟨nonempty, isSuffix⟩
      rw [same] at nonempty isSuffix
      exact ⟨nonempty, isSuffix⟩
    · rintro ⟨nonempty, isSuffix⟩
      rw [← same] at nonempty isSuffix
      exact ⟨nonempty, isSuffix⟩

/-! ## Lists -/

def linesOf (list : String) : List (List Char) := list.toList.splitOn '\n'

theorem newline_not_mem {list : String} (mem : line ∈ linesOf list) : '\n' ∉ line := by
  rw [linesOf, ← Text.split_eq_splitOn] at mem
  exact Text.not_mem_of_mem_split mem

theorem linesOf_ofList (one : '\n' ∉ line) : linesOf (String.ofList line) = [line] := by
  rw [linesOf, String.toList_ofList, List.splitOn_eq_singleton one]

theorem exists_loads_iff {name : String} (loads : Loads line loaded) :
    (∃ domain, Loads line domain ∧ Covers domain name) ↔ Covers loaded name := by
  simp only [loads_iff, loads_iff.mp loads, exists_eq_left']

theorem exists_means_iff {name : String} (h : Means line meant) :
    (∃ domain, Means line domain ∧ Covers domain name) ↔ Covers meant name := by
  constructor
  · rintro ⟨domain, h', covers⟩
    rwa [h.unique h']
  · exact fun covers => ⟨meant, h, covers⟩

/-- A line from which no domain is loaded is one without labels. -/
theorem exists_domainOfLine?_iff {name : String} :
    (∃ domain, domainOfLine? line = some domain ∧ Covers domain.toList name) ↔
      ∃ domain, Loads line domain ∧ Covers domain name := by
  rw [exists_loads_iff (loads_iff.mpr rfl)]
  unfold domainOfLine?
  split
  next empty =>
    rw [empty]
    constructor
    · rintro ⟨_, ⟨⟩, _⟩
    · rintro ⟨nonempty, -⟩
      exact absurd rfl nonempty
  next entry => simp

/-- A list blocks what is loaded from its lines. -/
theorem blocks_ofText_iff (list name : String) :
    (ofText list).blocks name = true ↔
      ∃ line ∈ linesOf list, ∃ domain, Loads line domain ∧ Covers domain name := by
  rw [ofText, ← ofDomains, (holds_ofDomains _).blocks_iff, exists_named_iff, domains,
    Text.split_eq_splitOn, ← linesOf]
  simp only [← exists_domainOfLine?_iff, List.mem_filterMap]
  constructor
  · rintro ⟨domain, ⟨line, mem, found⟩, covers⟩
    exact ⟨line, mem, domain, found, covers⟩
  · rintro ⟨line, mem, domain, found, covers⟩
    exact ⟨domain, ⟨line, mem, found⟩, covers⟩

/-- What is loaded from a line is below something that a line of the list means, and what the line
means is below something that is loaded from a line of the list. -/
structure IsMadeUpFor (list : String) (line : List Char) : Prop where
  of_loads : ∀ domain, Loads line domain → labelsOf domain ≠ [] →
    ∃ other ∈ linesOf list, ∃ above, Means other above ∧ Covers above (String.ofList domain)
  of_means : ∀ domain, Means line domain → labelsOf domain ≠ [] →
    ∃ other ∈ linesOf list, ∃ above, Loads other above ∧ Covers above (String.ofList domain)

/-- A list blocks what its lines mean exactly if each line that is not tidy is made up for. -/
theorem blocks_meant_iff (list : String) :
    (∀ name, (ofText list).blocks name = true ↔
        ∃ line ∈ linesOf list, ∃ domain, Means line domain ∧ Covers domain name) ↔
      ∀ line ∈ linesOf list, IsTidy line ∨ IsMadeUpFor list line := by
  simp only [blocks_ofText_iff]
  constructor
  · intro agree line mem
    refine Or.inr ⟨fun domain loads nonempty => ?_, fun domain h nonempty => ?_⟩
    · exact (agree _).mp ⟨line, mem, domain, loads, covers_self nonempty⟩
    · exact (agree _).mpr ⟨line, mem, domain, h, covers_self nonempty⟩
  · intro each name
    constructor
    · rintro ⟨line, mem, domain, loads, covers⟩
      obtain tidy | made_up := each line mem
      · exact ⟨line, mem, domain, tidy.means_loaded loads, covers⟩
      · obtain ⟨other, mem, above, h, above_covers⟩ :=
          made_up.of_loads domain loads covers.nonempty
        exact ⟨other, mem, above, h, above_covers.trans covers⟩
    · rintro ⟨line, mem, domain, h, covers⟩
      obtain tidy | made_up := each line mem
      · exact ⟨line, mem, domain, tidy.loads_meant h, covers⟩
      · obtain ⟨other, mem, above, loads, above_covers⟩ :=
          made_up.of_means domain h covers.nonempty
        exact ⟨other, mem, above, loads, above_covers.trans covers⟩

/-- A line alone blocks what it means exactly if it is tidy. -/
theorem blocks_meant_alone_iff (one : '\n' ∉ line) :
    (∀ name, (ofText (String.ofList line)).blocks name = true ↔
        ∃ domain, Means line domain ∧ Covers domain name) ↔ IsTidy line := by
  obtain ⟨meant, h⟩ := exists_means line
  have loads : Loads line (Text.afterLast ':' (Text.trim (Text.before '#' line))) :=
    loads_iff.mpr rfl
  rw [isTidy_iff loads h, ← covers_iff_covers_iff]
  simp only [blocks_ofText_iff, linesOf_ofList one, List.mem_singleton, exists_eq_left,
    exists_loads_iff loads, exists_means_iff h]

/-- A list blocks the names that are covered by what is loaded from one of its lines: the text
behind the last colon in front of a comment, once the blanks are taken off at both ends. These are
the names that its lines mean exactly if all lines are tidy, up to those that the rest of the list
makes up for. A line by itself blocks the names that it means exactly if it is tidy. -/
theorem list_blocks_what_lines_mean_iff (list : String) :
    (∀ name, (ofText list).blocks name = true ↔
        ∃ line ∈ linesOf list, ∃ domain, Loads line domain ∧ Covers domain name) ∧
      ((∀ name, (ofText list).blocks name = true ↔
          ∃ line ∈ linesOf list, ∃ domain, Means line domain ∧ Covers domain name) ↔
        ∀ line ∈ linesOf list, IsTidy line ∨ IsMadeUpFor list line) ∧
      ∀ line ∈ linesOf list,
        (∀ name, (ofText (String.ofList line)).blocks name = true ↔
          ∃ domain, Means line domain ∧ Covers domain name) ↔ IsTidy line :=
  ⟨blocks_ofText_iff list, blocks_meant_iff list, fun _ mem =>
    blocks_meant_alone_iff (newline_not_mem mem)⟩

/-- A comment, a domain behind a qualifier and a domain without one: names below the second line are
blocked. -/
theorem below_qualified_domain_blocked :
    linesOf "# ads\nfull:Ads.Example  # why\ntracker.test" =
        ["# ads".toList, "full:Ads.Example  # why".toList, "tracker.test".toList] ∧
      (∀ line ∈ linesOf "# ads\nfull:Ads.Example  # why\ntracker.test", IsTidy line) ∧
      (ofText "# ads\nfull:Ads.Example  # why\ntracker.test").blocks "x.ads.example" = true := by
  have lines : linesOf "# ads\nfull:Ads.Example  # why\ntracker.test" =
      ["# ads".toList, "full:Ads.Example  # why".toList, "tracker.test".toList] := by
    rw [linesOf, ← Text.split_eq_splitOn]
    decide +kernel
  have comment : Uncommented "# ads".toList [] := uncommented_iff.mpr (by decide +kernel)
  have qualified : Uncommented "full:Ads.Example  # why".toList
      ("full".toList ++ ':' :: ("Ads.Example".toList ++ "  ".toList)) :=
    uncommented_iff.mpr (by decide +kernel)
  have bare : Uncommented "tracker.test".toList "tracker.test".toList :=
    uncommented_iff.mpr (by decide +kernel)
  have starts : ∀ c ∈ "Ads.Example".toList.head?, isBlank c = false := by
    have first : "Ads.Example".toList.head? = some 'A' := by decide +kernel
    rw [first]
    rintro c ⟨⟩
    decide
  have blank : ∀ c ∈ "  ".toList, isBlank c = true := List.all_eq_true.mp (by decide +kernel)
  have tidy : ∀ line ∈ linesOf "# ads\nfull:Ads.Example  # why\ntracker.test", IsTidy line := by
    rw [lines]
    intro line mem
    simp only [List.mem_cons, List.not_mem_nil, or_false] at mem
    obtain rfl | rfl | rfl := mem
    · exact .bare comment List.not_mem_nil
    · exact .qualified qualified (by decide +kernel) (by decide +kernel) starts blank
    · exact .bare bare (by decide +kernel)
  have agree := (list_blocks_what_lines_mean_iff _).2.1.mpr fun line mem => Or.inl (tidy line mem)
  refine ⟨lines, tidy, (agree _).mpr ?_⟩
  refine ⟨_, lines ▸ List.mem_cons_of_mem _ List.mem_cons_self, "Ads.Example".toList, ?_, ?_, ?_⟩
  · exact ⟨qualified, .cut (by decide +kernel) _, Text.trimmed_iff.mpr (by decide +kernel)⟩
  · rw [labelsOf, ← Text.split_eq_splitOn]
    decide +kernel
  · rw [labelsOf, labelsOf, ← Text.split_eq_splitOn, ← Text.split_eq_splitOn]
    decide +kernel

/-- A blank behind the qualifier is loaded as a part of the domain. The list counts a domain, but
the one that the line means is not blocked. -/
theorem domain_behind_blank_not_blocked :
    Means "domain: ads.example".toList "ads.example".toList ∧
      Covers "ads.example".toList "ads.example" ∧
      (ofText "domain: ads.example").size = 1 ∧
      (ofText "domain: ads.example").blocks "ads.example" = false := by
  have parts : "domain: ads.example".toList = "domain".toList ++ ':' :: " ads.example".toList := by
    decide +kernel
  refine ⟨?_, ⟨?_, List.suffix_rfl⟩, by decide +kernel, by decide +kernel⟩
  · rw [parts]
    exact ⟨.whole (by decide +kernel), .cut (by decide +kernel) _,
      Text.trimmed_iff.mpr (by decide +kernel)⟩
  · rw [labelsOf, ← Text.split_eq_splitOn]
    decide +kernel

end Tollgate.Dns.Blocklist
