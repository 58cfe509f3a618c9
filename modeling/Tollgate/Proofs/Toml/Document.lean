import Tollgate.Proofs.Toml.Values

/-!
# Files of sections are read back

A file of settings has sections, each with a header and a line for each of its settings, and an
empty line between every two. Each line is read in one step of the document and fills the tables as
the sections say: a header begins a table behind all others, and a setting is added behind the
others of the last table. The induction is on the settings of a section, and then on the sections.
-/

namespace Tollgate.Toml

open Config (Node)
open Text.Reader

/-- The settings of a section, in their order. -/
abbrev Entries := List (String × Node)

/-! ## Tables -/

namespace Item

def ofEntries (entries : Entries) : Item := .table .header (entries.map (Prod.map id .value))

def ofSections (sections : List (String × Entries)) : Item :=
  .table .header (sections.map (Prod.map id ofEntries))

variable {α : Type} {key : String} {items before : List (String × Item)}

theorem lookup_map_of_not_mem {entries : List (String × α)} (f : α → Item)
    (unknown : key ∉ entries.map (·.1)) : (entries.map (Prod.map id f)).lookup key = none := by
  rw [List.lookup_eq_none_iff]
  intro item mem
  obtain ⟨entry, entry_mem, rfl⟩ := List.mem_map.mp mem
  simp only [Prod.map_fst, id_eq, bne_iff_ne, ne_eq]
  rintro rfl
  exact unknown (List.mem_map_of_mem entry_mem)

theorem replaced_of_not_mem (new : Item) (unknown : key ∉ items.map (·.1)) :
    replaced key new items = items ++ [(key, new)] := by
  induction items with
  | nil => rfl
  | cons item items ih =>
      obtain ⟨other, others⟩ := not_or.mp (mt List.mem_cons.mpr unknown)
      rw [replaced, if_neg (Ne.symm other), ih others]
      rfl

theorem replaced_append_singleton (new old : Item) (unknown : key ∉ before.map (·.1)) :
    replaced key new (before ++ [(key, old)]) = before ++ [(key, new)] := by
  induction before with
  | nil => simp [replaced]
  | cons item before ih =>
      obtain ⟨other, others⟩ := not_or.mp (mt List.mem_cons.mpr unknown)
      rw [List.cons_append, replaced, if_neg (Ne.symm other), ih others]
      rfl

theorem map_fst_map (f : α → Item) (entries : List (String × α)) :
    (entries.map (Prod.map id f)).map (·.1) = entries.map (·.1) := by
  rw [List.map_map]
  rfl

theorem addTable?_ofSections {sections : List (String × Entries)} {name : String}
    (unknown : name ∉ sections.map (·.1)) :
    (ofSections sections).addTable? [] name = some (ofSections (sections ++ [(name, [])])) := by
  have absent := lookup_map_of_not_mem ofEntries unknown
  rw [← map_fst_map ofEntries] at unknown
  simp [addTable?, change?, ofSections, get?, absent, set?, replaced_of_not_mem _ unknown,
    ofEntries, empty]

/-- A new setting of the last section is added to its table. -/
theorem addValue?_ofSections {sections : List (String × Entries)} {name key : String}
    {entries : Entries} (unknown : name ∉ sections.map (·.1)) (fresh : key ∉ entries.map (·.1))
    (node : Node) :
    (ofSections (sections ++ [(name, entries)])).change? false (addValue? [] key node) [name] =
      some (ofSections (sections ++ [(name, entries ++ [(key, node)])])) := by
  have absent := lookup_map_of_not_mem ofEntries unknown
  have absent_key := lookup_map_of_not_mem value fresh
  rw [← map_fst_map ofEntries] at unknown
  rw [← map_fst_map value] at fresh
  simp [addValue?, change?, ofSections, get?, List.lookup_append, absent, ofEntries, absent_key,
    set?, replaced_of_not_mem _ fresh, replaced_append_singleton _ _ unknown]

theorem entryNodes_map (f : α → Item) (entries : List (String × α)) :
    entryNodes (entries.map (Prod.map id f)) = entries.map (Prod.map id fun a => (f a).node) := by
  induction entries with
  | nil => rfl
  | cons entry entries ih =>
      rw [List.map_cons, List.map_cons, ← ih]
      rfl

theorem node_ofSections (sections : List (String × Entries)) :
    (ofSections sections).node = .table (sections.map (Prod.map id .table)) := by
  have entries_eq : (fun entries => (ofEntries entries).node) = Node.table := by
    funext entries
    rw [ofEntries, node, entryNodes_map]
    simp only [node]
    exact congrArg Node.table (List.map_id entries)
  rw [ofSections, node, entryNodes_map, entries_eq]

end Item

/-! ## Keys -/

variable {name : String} {node : Node} {rest left : List Char} {root next final : Item}
variable {place : List String}

/-- A name that is a key without quotes. -/
def IsBareKey (name : String) : Prop :=
  name.toList ≠ [] ∧ ∀ c ∈ name.toList, isBareKeyChar c = true

instance (name : String) : Decidable (IsBareKey name) :=
  have : Decidable (∀ c ∈ name.toList, isBareKeyChar c = true) := List.decidableBAll _ _
  inferInstanceAs (Decidable (_ ∧ _))

@[simp]
theorem run_blanks (text : List Char) :
    StateT.run blanks text = some ((), text.dropWhile isBlank) := rfl

theorem ne_of_isBareKeyChar {c other : Char} (bare : isBareKeyChar c = true)
    (special : isBareKeyChar other = false) : c ≠ other := by
  rintro rfl
  rw [bare] at special
  cases special

/-- A text that begins with a bare key begins with a character of one. -/
theorem IsBareKey.head?_append (bare : IsBareKey name) (rest : List Char) :
    ∃ first, (name.toList ++ rest).head? = some first ∧ isBareKeyChar first = true := by
  obtain ⟨first, others, name_eq⟩ := List.exists_cons_of_ne_nil bare.1
  refine ⟨first, ?_, bare.2 first (name_eq ▸ List.mem_cons_self)⟩
  rw [name_eq]
  rfl

theorem IsBareKey.dropWhile_isBlank (bare : IsBareKey name) (rest : List Char) :
    (name.toList ++ rest).dropWhile isBlank = name.toList ++ rest := by
  obtain ⟨first, head, start⟩ := bare.head?_append rest
  apply dropWhile_of_stops
  intro c c_head
  obtain rfl := Option.some.inj (head.symm.trans c_head)
  have noSpace : first ≠ ' ' := ne_of_isBareKeyChar start (by decide)
  have noTab : first ≠ '\t' := ne_of_isBareKeyChar start (by decide)
  simp [isBlank, noSpace, noTab]

theorem run_key (bare : IsBareKey name) (stops : Stops isBareKeyChar rest) :
    StateT.run key (name.toList ++ rest) = some (name, rest) := by
  obtain ⟨first, head, start⟩ := bare.head?_append rest
  have noDouble : first ≠ '"' := ne_of_isBareKeyChar start (by decide)
  have noSingle : first ≠ '\'' := ne_of_isBareKeyChar start (by decide)
  have chars := run_run1_append bare.1 bare.2 stops
  rw [key, StateT.run_bind, run_peek, head]
  simp [noDouble, noSingle, chars]

/-- A key without dots is read alone. -/
theorem run_dottedKey (bare : IsBareKey name) (stops : Stops isBareKeyChar rest)
    (noDot : (rest.dropWhile isBlank).head? ≠ some '.') :
    StateT.run dottedKey (name.toList ++ rest) = some (([], name), rest.dropWhile isBlank) := by
  simp [dottedKey, keys, bare.dropWhile_isBlank, run_key bare stops, noDot]

/-! ## Lines -/

theorem run_lineEnd (rest : List Char) : StateT.run lineEnd ('\n' :: rest) = some ((), rest) := by
  have noBlank : ('\n' :: rest).dropWhile isBlank = '\n' :: rest :=
    dropWhile_of_stops (stops_cons (by decide) rest)
  simp [lineEnd, noBlank, comment, newline]

def headerLine (name : String) : List Char := '[' :: (name.toList ++ [']', '\n'])

def settingLine (entry : String × Node) : List Char :=
  entry.1.toList ++ ' ' :: '=' :: ' ' :: ((Config.valueText entry.2).toList ++ ['\n'])

theorem run_header (bare : IsBareKey name) (added : root.addTable? [] name = some next)
    (rest : List Char) :
    StateT.run (header root) (headerLine name ++ rest) = some (([name], next), rest) := by
  obtain ⟨first, head, start⟩ := bare.head?_append (']' :: '\n' :: rest)
  have noArray : first ≠ '[' := ne_of_isBareKeyChar start (by decide)
  have noBlank : (']' :: '\n' :: rest).dropWhile isBlank = ']' :: '\n' :: rest :=
    dropWhile_of_stops (stops_cons (by decide) _)
  have stops : Stops isBareKeyChar (']' :: '\n' :: rest) := stops_cons (by decide) _
  have keyed := run_dottedKey bare stops (by simp [noBlank])
  rw [noBlank] at keyed
  have line_eq : headerLine name ++ rest = '[' :: (name.toList ++ ']' :: '\n' :: rest) := by
    simp [headerLine]
  rw [line_eq, header]
  simp only [StateT.run_bind, run_skip, List.drop_succ_cons, List.drop_zero, Option.bind_eq_bind,
    Option.bind_some, run_peek, head, Option.some.injEq, noArray, if_false, StateT.run_pure, keyed,
    run_expect, run_lineEnd, added]
  rfl

theorem run_setting (bare : IsBareKey name) (scalar : IsScalar node)
    (added : root.change? false (Item.addValue? [] name node) place = some next)
    (rest : List Char) :
    StateT.run (setting place root) (settingLine (name, node) ++ rest) = some (next, rest) := by
  have written := scalar.stops_isBlank rest
  generalize value_eq : (Config.valueText node).toList ++ '\n' :: rest = text at written
  have equals : (' ' :: '=' :: ' ' :: text).dropWhile isBlank = '=' :: ' ' :: text := by
    rw [List.dropWhile_cons_of_pos (by decide)]
    exact dropWhile_of_stops (stops_cons (by decide) _)
  have noBlank : (' ' :: text).dropWhile isBlank = text := by
    rw [List.dropWhile_cons_of_pos (by decide)]
    exact dropWhile_of_stops written
  have stops : Stops isBareKeyChar (' ' :: '=' :: ' ' :: text) := stops_cons (by decide) _
  have keyed := run_dottedKey bare stops (by simp [equals])
  have line_eq : settingLine (name, node) ++ rest = name.toList ++ ' ' :: '=' :: ' ' :: text := by
    simp [settingLine, ← value_eq]
  have read := run_value_valueText scalar maxDepth text.length rest
  rw [value_eq] at read
  rw [line_eq, setting]
  simp only [StateT.run_bind, keyed, equals, Option.bind_eq_bind, Option.bind_some, run_expect,
    run_blanks, noBlank, StateT.run_get, Option.pure_def, read, run_lineEnd, added]
  rfl

/-! ## Documents -/

/-- Reads from a line on, in a place and with the tables so far. -/
abbrev ReadsFrom (place : List String) (root : Item) (text : List Char) (final : Item) : Prop :=
  Reads (fun steps => document steps place root) text final []

theorem readsFrom_end (place : List String) (root : Item) : ReadsFrom place root [] root := by
  rintro (_ | steps) enough
  · cases enough
  · simp [document]

theorem readsFrom_emptyLine (after : ReadsFrom place root rest final) :
    ReadsFrom place root ('\n' :: rest) final := by
  rintro (_ | steps) enough
  · cases enough
  · have later := after steps (Nat.lt_of_succ_lt_succ enough)
    have noBlank : ('\n' :: rest).dropWhile isBlank = '\n' :: rest :=
      dropWhile_of_stops (stops_cons (by decide) rest)
    simp [document, noBlank, run_lineEnd, later]

theorem readsFrom_header (bare : IsBareKey name) (added : root.addTable? [] name = some next)
    (after : ReadsFrom [name] next rest final) :
    ReadsFrom place root (headerLine name ++ rest) final := by
  rintro (_ | steps) enough
  · cases enough
  · have later : StateT.run (document steps [name] next) rest = some (final, []) := by
      apply after
      rw [headerLine, List.length_append, List.length_cons] at enough
      omega
    have noBlank : (headerLine name ++ rest).dropWhile isBlank = headerLine name ++ rest :=
      dropWhile_of_stops (stops_cons (by decide) _)
    have head : (headerLine name ++ rest).head? = some '[' := rfl
    show StateT.run (document (steps + 1) place root) _ = _
    rw [document]
    simp only [StateT.run_bind, run_blanks, noBlank, Option.bind_eq_bind, Option.bind_some,
      run_peek, head, run_header bare added, later]

theorem readsFrom_setting (bare : IsBareKey name) (scalar : IsScalar node)
    (added : root.change? false (Item.addValue? [] name node) place = some next)
    (after : ReadsFrom place next rest final) :
    ReadsFrom place root (settingLine (name, node) ++ rest) final := by
  rintro (_ | steps) enough
  · cases enough
  · have later : StateT.run (document steps place next) rest = some (final, []) := by
      apply after
      rw [settingLine, List.length_append, List.length_append, List.length_cons] at enough
      omega
    have noBlank : (settingLine (name, node) ++ rest).dropWhile isBlank =
        settingLine (name, node) ++ rest := by
      rw [settingLine, List.append_assoc]
      exact bare.dropWhile_isBlank _
    obtain ⟨first, head, start⟩ : ∃ first, (settingLine (name, node) ++ rest).head? = some first ∧
        isBareKeyChar first = true := by
      rw [settingLine, List.append_assoc]
      exact bare.head?_append _
    show StateT.run (document (steps + 1) place root) _ = _
    rw [document]
    simp only [StateT.run_bind, run_blanks, noBlank, Option.bind_eq_bind, Option.bind_some,
      run_peek, head]
    split
    next nothing => cases nothing
    next comment =>
        exact absurd (Option.some.inj comment) (ne_of_isBareKeyChar start (by decide))
    next feed => exact absurd (Option.some.inj feed) (ne_of_isBareKeyChar start (by decide))
    next return_ => exact absurd (Option.some.inj return_) (ne_of_isBareKeyChar start (by decide))
    next bracket =>
        exact absurd (Option.some.inj bracket) (ne_of_isBareKeyChar start (by decide))
    next =>
        simp only [StateT.run_bind, run_setting bare scalar added, later, Option.bind_eq_bind,
          Option.bind_some]

/-- Settings that can be written in one section. -/
structure IsSection (entries : Entries) : Prop where
  bare : ∀ entry ∈ entries, IsBareKey entry.1
  scalar : ∀ entry ∈ entries, IsScalar entry.2
  distinct : (entries.map (·.1)).Nodup

variable {sections : List (String × Entries)} {before entries : Entries}

/-- The lines of settings add them to the last section. -/
theorem readsFrom_settings (unknown : name ∉ sections.map (·.1))
    (bare : ∀ entry ∈ entries, IsBareKey entry.1) (scalar : ∀ entry ∈ entries, IsScalar entry.2)
    (distinct : ((before ++ entries).map (·.1)).Nodup)
    (after : ReadsFrom [name] (Item.ofSections (sections ++ [(name, before ++ entries)])) rest
      final) :
    ReadsFrom [name] (Item.ofSections (sections ++ [(name, before)]))
      (entries.flatMap settingLine ++ rest) final := by
  induction entries generalizing before with
  | nil =>
      rw [List.append_nil] at after
      exact after
  | cons entry entries ih =>
      obtain ⟨key, node⟩ := entry
      obtain ⟨bare_here, bare_later⟩ := List.forall_mem_cons.mp bare
      obtain ⟨scalar_here, scalar_later⟩ := List.forall_mem_cons.mp scalar
      have fresh : key ∉ before.map (·.1) := by
        rw [List.map_append, List.nodup_append] at distinct
        intro mem
        exact distinct.2.2 key mem key List.mem_cons_self rfl
      rw [List.append_cons before] at distinct after
      rw [List.flatMap_cons, List.append_assoc]
      apply readsFrom_setting bare_here scalar_here (Item.addValue?_ofSections unknown fresh node)
      exact ih bare_later scalar_later distinct after

/-- The text of sections, with an empty line between every two. -/
def sectionsText (sections : List (String × Entries)) : List Char :=
  ['\n'].intercalate (sections.map fun s => headerLine s.1 ++ s.2.flatMap settingLine)

theorem sectionsText_cons (first : String × Entries) (others : List (String × Entries)) :
    sectionsText (first :: others) = headerLine first.1 ++ (first.2.flatMap settingLine ++
      if others = [] then [] else '\n' :: sectionsText others) := by
  cases others with
  | nil => simp [sectionsText]
  | cons second others =>
      simp [sectionsText, List.intercalate_cons_cons]

/-- Sections behind others are read into tables behind theirs. -/
theorem readsFrom_sections {others : List (String × Entries)}
    (bare : ∀ s ∈ others, IsBareKey s.1) (written : ∀ s ∈ others, IsSection s.2)
    (distinct : ((sections ++ others).map (·.1)).Nodup) :
    ReadsFrom place (Item.ofSections sections) (sectionsText others)
      (Item.ofSections (sections ++ others)) := by
  induction others generalizing sections place with
  | nil =>
      rw [List.append_nil]
      exact readsFrom_end place _
  | cons first others ih =>
      obtain ⟨name, entries⟩ := first
      obtain ⟨bare_here, bare_later⟩ := List.forall_mem_cons.mp bare
      obtain ⟨written_here, written_later⟩ := List.forall_mem_cons.mp written
      have unknown : name ∉ sections.map (·.1) := by
        rw [List.map_append, List.nodup_append] at distinct
        intro mem
        exact distinct.2.2 name mem name List.mem_cons_self rfl
      rw [List.append_cons] at distinct ⊢
      have later : ReadsFrom [name] _ _ _ := ih bare_later written_later distinct
      have own : ((([] : Entries) ++ entries).map (·.1)).Nodup := written_here.distinct
      rw [sectionsText_cons]
      apply readsFrom_header bare_here (Item.addTable?_ofSections unknown)
      apply readsFrom_settings unknown written_here.bare written_here.scalar own
      split
      next last =>
          subst last
          exact later
      next => exact readsFrom_emptyLine later

def sectionsNode (sections : List (String × Entries)) : Node :=
  .table (sections.map (Prod.map id .table))

theorem toList_settingText (entry : String × Node) :
    (s!"{entry.1} = {Config.valueText entry.2}\n").toList = settingLine entry := by
  change (entry.1 ++ " = " ++ Config.valueText entry.2 ++ "\n").toList = _
  simp [settingLine, String.toList_append]

theorem toList_sectionText (s : String × Entries) :
    (Config.sectionText (s.1, .table s.2)).toList =
      headerLine s.1 ++ s.2.flatMap settingLine := by
  have header_eq : (s!"[{s.1}]\n").toList = headerLine s.1 := by
    change ("[" ++ s.1 ++ "]\n").toList = _
    simp [headerLine, String.toList_append]
  rw [Config.sectionText, String.toList_join, List.flatMap_cons, header_eq, List.flatMap_map]
  exact congrArg _ (congrArg (s.2.flatMap ·) (funext toList_settingText))

theorem toList_sectionsText (sections : List (String × Entries)) :
    (Config.sectionsText (sectionsNode sections)).toList = sectionsText sections := by
  rw [sectionsNode, Config.sectionsText, String.toList_intercalate, sectionsText, List.map_map,
    List.map_map]
  exact congrArg _ (congrArg (sections.map ·) (funext toList_sectionText))

/-- A file of sections is read back as it was written. -/
theorem parse?_sectionsText (bare : ∀ s ∈ sections, IsBareKey s.1)
    (written : ∀ s ∈ sections, IsSection s.2) (distinct : (sections.map (·.1)).Nodup) :
    parse? (Config.sectionsText (sectionsNode sections)) = some (sectionsNode sections) := by
  have distinct_all : ((([] : List (String × Entries)) ++ sections).map (·.1)).Nodup := distinct
  have read : ReadsFrom [] (Item.empty .header) (sectionsText sections)
      (Item.ofSections sections) := readsFrom_sections bare written distinct_all
  have taken := read ((sectionsText sections).length + 1) (Nat.lt_succ_self _)
  rw [parse?, toList_sectionsText, sectionsNode, ← Item.node_ofSections]
  split
  next rest marked =>
      cases sections with
      | nil => simp [sectionsText] at marked
      | cons s others =>
          rw [sectionsText_cons, headerLine] at marked
          simp at marked
  next => simp [taken]

end Tollgate.Toml
