import Mathlib.Data.List.Nodup
import Mathlib.Tactic.MkIffOfInductiveProp
import SqlMapping.Proofs.Attempt
import SqlMapping.Proofs.Text.Trim
import SqlMapping.Tag

/-! # The grammar of tags

A tag lists entries between semicolons, each a key with a value after a colon or a key alone. What
it reads as goes by its keys and values only: not by the blanks around them, and not by their order
if no two keys are the same. -/

namespace SqlMapping

open scoped List

namespace Tag

variable {t t' : Tag} {key value : String}

/-! ## Entries -/

/-- The entries of a list of parts: those that are not blank. -/
def entries (parts : List (List Char)) : List (List Char) :=
  parts.filter (¬ Text.Blank ·)

/-- What an entry states: the key before its first colon and the value after it, or a key alone,
each without the blanks around it. -/
inductive States : List Char → String × String → Prop
  | pair {key value : List Char} (h : ':' ∉ key) :
      States (key ++ ':' :: value) (.ofList (Text.trim key), .ofList (Text.trim value))
  | key {key : List Char} (h : ':' ∉ key) : States key (.ofList (Text.trim key), "")

/-- The keys and values that are allowed: a column has a name, the two settings have a truth value
or none, and the marks take any value. -/
@[mk_iff] inductive Allows : String → String → Prop
  | column {value : String} (h : value ≠ "") : Allows "col" value
  | setting {key value : String} (hkey : key ∈ ["use_alias", "update_zero"])
      (h : value = "" ∨ (Text.truth? value).isSome) : Allows key value
  | mark {key value : String} (hkey : key ∈ ["extend", "ignore", "-"]) : Allows key value

/-- Two entries with different keys. -/
def Apart (p q : List Char) : Prop :=
  ∀ e e', States p e → States q e' → e.1 ≠ e'.1

/-- A text with blanks put around it. -/
inductive Surrounded : List Char → List Char → Prop
  | mk {before cs after : List Char} (hbefore : Text.Blank before) (hafter : Text.Blank after) :
      Surrounded cs (before ++ cs ++ after)

/-- An entry with blanks put around it, its key or its value. -/
inductive Padded : List Char → List Char → Prop
  | pair {key value key' value' : List Char} (h : ':' ∉ key) (hkey : Surrounded key key')
      (hvalue : Surrounded value value') : Padded (key ++ ':' :: value) (key' ++ ':' :: value')
  | key {key key' : List Char} (h : ':' ∉ key) (hkey : Surrounded key key') : Padded key key'

theorem dropWhile_colon {cs : List Char} (h : ':' ∉ cs) : cs.dropWhile (· != ':') = [] := by
  rw [List.dropWhile_eq_nil_iff]
  rintro c hc
  simpa using fun heq : c = ':' => h (heq ▸ hc)

theorem keyValue_key {cs : List Char} (h : ':' ∉ cs) : keyValue cs = (.ofList cs, "") := by
  rw [keyValue, dropWhile_colon h]

theorem keyValue_pair {cs ds : List Char} (h : ':' ∉ cs) :
    keyValue (cs ++ ':' :: ds) = (.ofList (Text.trim cs), .ofList (Text.trim ds)) := by
  have hdrop : (cs ++ ':' :: ds).dropWhile (· != ':') = ':' :: ds := by
    rw [List.dropWhile_append, dropWhile_colon h]
    rfl
  have htake : (cs ++ ':' :: ds).takeWhile (· != ':') = cs := by
    have happend := List.takeWhile_append_dropWhile (p := (· != ':')) (l := cs ++ ':' :: ds)
    rw [hdrop] at happend
    exact List.append_cancel_right happend
  rw [keyValue, hdrop, htake]

theorem States.keyValue_trim {p : List Char} {e : String × String} (h : States p e) :
    keyValue (Text.trim p) = e := by
  cases h with
  | pair h =>
      rw [Text.trim_append_cons (by decide),
        keyValue_pair fun hmem => h ((Text.trimStart_sublist _).subset hmem),
        Text.trim_trimStart, Text.trim_trimEnd]
  | key h => exact keyValue_key fun hmem => h ((Text.trim_sublist p).subset hmem)

theorem exists_states (p : List Char) : ∃ e, States p e := by
  by_cases h : ':' ∈ p
  · obtain ⟨key, value, rfl, hkey⟩ := List.eq_append_cons_of_mem h
    exact ⟨_, .pair hkey⟩
  · exact ⟨_, .key h⟩

theorem states_iff {p : List Char} {e : String × String} :
    States p e ↔ keyValue (Text.trim p) = e := by
  refine ⟨States.keyValue_trim, ?_⟩
  rintro rfl
  obtain ⟨e, he⟩ := exists_states p
  rwa [he.keyValue_trim]

theorem apart_iff {p q : List Char} :
    Apart p q ↔ (keyValue (Text.trim p)).1 ≠ (keyValue (Text.trim q)).1 := by
  simp [Apart, states_iff]

instance (p q : List Char) : Decidable (Apart p q) :=
  decidable_of_iff _ apart_iff.symm

theorem Surrounded.trim_eq {p q : List Char} (h : Surrounded p q) : Text.trim q = Text.trim p := by
  obtain ⟨hbefore, hafter⟩ := h
  rw [Text.trim_append_of_blank_right hafter, Text.trim_append_of_blank_left hbefore]

theorem Surrounded.mem_colon {p q : List Char} (h : Surrounded p q) (hp : ':' ∉ p) : ':' ∉ q := by
  obtain ⟨hbefore, hafter⟩ := h
  have hblank : ¬ Text.isBlank ':' := by decide
  simp only [List.mem_append, not_or]
  exact ⟨⟨fun hmem => hblank (hbefore _ hmem), hp⟩, fun hmem => hblank (hafter _ hmem)⟩

theorem Padded.keyValue_eq {p q : List Char} (h : Padded p q) :
    keyValue (Text.trim q) = keyValue (Text.trim p) := by
  refine States.keyValue_trim ?_
  cases h with
  | pair h hkey hvalue =>
      rw [(States.pair h).keyValue_trim, ← hkey.trim_eq, ← hvalue.trim_eq]
      exact .pair (hkey.mem_colon h)
  | key h hkey =>
      rw [(States.key h).keyValue_trim, ← hkey.trim_eq]
      exact .key (hkey.mem_colon h)

/-! ## Contents -/

/-- The keys and values of the entries among some parts. -/
def contents (parts : List (List Char)) : List (String × String) :=
  (entries parts).map fun p => keyValue (Text.trim p)

theorem contents_append (ps qs : List (List Char)) :
    contents (ps ++ qs) = contents ps ++ contents qs := by
  rw [contents, entries, List.filter_append, List.map_append]
  rfl

theorem contents_of_padded {ps qs : List (List Char)}
    (h : List.Forall₂ Padded (entries ps) (entries qs)) : contents ps = contents qs := by
  rw [contents, contents]
  generalize entries ps = es at h
  generalize entries qs = es' at h
  induction h with
  | nil => rfl
  | cons hfirst _ ih => rw [List.map_cons, List.map_cons, hfirst.keyValue_eq, ih]

theorem contents_perm {ps qs : List (List Char)} (h : ps ~ qs) : contents ps ~ contents qs :=
  (h.filter _).map _

/-- The contents of a text are those of what stands on the two sides of a semicolon. -/
theorem contents_split (cs ds : List Char) :
    contents ((cs ++ ';' :: ds).splitOn ';') =
      contents (cs.splitOn ';') ++ contents (ds.splitOn ';') := by
  rw [List.splitOn_append_cons_self, contents_append]

theorem contents_of_trim {cs ds : List Char} (hcs : ';' ∉ cs) (hds : ';' ∉ ds)
    (h : Text.trim ds = Text.trim cs) :
    contents (ds.splitOn ';') = contents (cs.splitOn ';') := by
  have hblank : Text.Blank ds ↔ Text.Blank cs := by
    rw [← Text.trim_eq_nil_iff, ← Text.trim_eq_nil_iff, h]
  rw [List.splitOn_eq_singleton hcs, List.splitOn_eq_singleton hds]
  by_cases hb : Text.Blank cs
  · simp [contents, entries, hb, hblank.mpr hb]
  · simp [contents, entries, hb, hblank.not.mpr hb, h]

theorem not_mem_of_blank {bs : List Char} (h : Text.Blank bs) : ';' ∉ bs := fun hmem =>
  absurd (h _ hmem) (by decide)

/-- Blanks before a text stand before its first part: no blank is a semicolon. -/
theorem contents_blank_left {bs : List Char} (h : Text.Blank bs) (cs : List Char) :
    contents ((bs ++ cs).splitOn ';') = contents (cs.splitOn ';') := by
  have hpart {as : List Char} (has : ';' ∉ as) :
      contents ((bs ++ as).splitOn ';') = contents (as.splitOn ';') :=
    contents_of_trim has (List.not_mem_append (not_mem_of_blank h) has)
      (Text.trim_append_of_blank_left h)
  by_cases hcs : ';' ∈ cs
  · obtain ⟨first, rest, rfl, hfirst⟩ := List.eq_append_cons_of_mem hcs
    rw [← List.append_assoc, contents_split, contents_split, hpart hfirst]
  · exact hpart hcs

/-- Blanks after a text stand after its last part. -/
theorem contents_blank_right {bs : List Char} (h : Text.Blank bs) (cs : List Char) :
    contents ((cs ++ bs).splitOn ';') = contents (cs.splitOn ';') := by
  have hpart {as : List Char} (has : ';' ∉ as) :
      contents ((as ++ bs).splitOn ';') = contents (as.splitOn ';') :=
    contents_of_trim has (List.not_mem_append has (not_mem_of_blank h))
      (Text.trim_append_of_blank_right h)
  by_cases hcs : ';' ∈ cs
  · obtain ⟨last, rest, hrest, hlast⟩ := List.eq_append_cons_of_mem (List.mem_reverse.mpr hcs)
    have hsplit : cs = rest.reverse ++ ';' :: last.reverse := by
      simpa using congrArg List.reverse hrest
    rw [hsplit, List.append_assoc, List.cons_append, contents_split, contents_split,
      hpart (by simpa using hlast)]
  · exact hpart hcs

theorem contents_trim (cs : List Char) :
    contents ((Text.trim cs).splitOn ';') = contents (cs.splitOn ';') := by
  obtain ⟨before, after, hbefore, hafter, hcs⟩ := Text.exists_blank_append_trim cs
  conv_rhs => rw [hcs, contents_blank_right hafter, contents_blank_left hbefore]

/-! ## What an entry writes -/

/-- A tag with what an entry writes, each field by the keys that are its own. -/
def noting (t : Tag) (e : String × String) : Tag :=
  let named := e.1 = "extend" ∧ e.2 ≠ ""
  { ignore := t.ignore || e.1 ∈ ["ignore", "-"]
    extend := t.extend || e.1 = "extend"
    extendTable := if named then some (Alias.split e.2).1 else t.extendTable
    extendAlias :=
      if named then
        if (Alias.split e.2).2.isEmpty then none else some (Alias.split e.2).2
      else t.extendAlias
    column := if e.1 = "col" then some e.2 else t.column
    useAlias := if e.1 = "use_alias" then (Text.truth? e.2).getD t.useAlias else t.useAlias
    updateZero :=
      if e.1 = "update_zero" then (Text.truth? e.2).getD t.updateZero else t.updateZero }

theorem noting_extend : t.noting ("extend", value) = t.withExtension value := by
  rw [withExtension]
  by_cases h : value = ""
  · simp [noting, h]
  · simp [noting, h, String.isEmpty_iff]

theorem isSome_truth?_iff :
    (value = "" ∨ (Text.truth? value).isSome) ↔ (Text.truth? value).isSome := by
  rw [or_iff_right_iff_imp]
  rintro rfl
  rfl

/-- An entry is added if it is allowed, and writes its own fields. -/
theorem addEntry_eq_ok_iff :
    t.addEntry key value = .ok t' ↔ Allows key value ∧ t.noting (key, value) = t' := by
  rw [addEntry.eq_def, allows_iff, isSome_truth?_iff]
  split
  · by_cases h : value = "" <;> simp [h, noting]
  · simp [noting_extend]
  · cases htruth : Text.truth? value <;> simp [noting, htruth]
  · cases htruth : Text.truth? value <;> simp [noting, htruth]
  · simp [noting]
  · simp [noting]
  · simp_all

theorem noting_comm {e e' : String × String} (h : e.1 ≠ e'.1) :
    (t.noting e).noting e' = (t.noting e').noting e := by
  simp only [noting, mk.injEq]
  refine ⟨?_, ?_, ?_, ?_, ?_, ?_, ?_⟩ <;> grind

/-! ## Texts -/

theorem addEntries_eq_ok_iff (ps : List (List Char)) :
    t.addEntries ps = .ok t' ↔
      (∀ e ∈ contents ps, Allows e.1 e.2) ∧ (contents ps).foldl noting t = t' := by
  induction ps generalizing t with
  | nil => simp [addEntries, contents, entries]
  | cons p ps ih =>
      rw [addEntries]
      by_cases hblank : Text.Blank p
      · have hskip : contents (p :: ps) = contents ps := by simp [contents, entries, hblank]
        rw [hskip, ← ih, Text.trim_eq_nil_iff.mpr hblank]
        rfl
      · have hfirst : contents (p :: ps) = keyValue (Text.trim p) :: contents ps := by
          simp [contents, entries, hblank]
        have hne : (Text.trim p).isEmpty = false := by
          simpa [Text.trim_eq_nil_iff] using hblank
        simp only [hne, Bool.false_eq_true, if_false, hfirst, List.forall_mem_cons,
          List.foldl_cons]
        cases hadd : t.addEntry (keyValue (Text.trim p)).1 (keyValue (Text.trim p)).2 with
        | error reason =>
            have hnot : ¬ Allows (keyValue (Text.trim p)).1 (keyValue (Text.trim p)).2 := by
              intro hallows
              rw [addEntry_eq_ok_iff.mpr ⟨hallows, rfl⟩] at hadd
              cases hadd
            simp [hnot]
        | ok u =>
            obtain ⟨hallows, rfl⟩ := addEntry_eq_ok_iff.mp hadd
            simp only [ih, hallows, true_and]

/-- A text reads as the tag that its entries write, if all of them are allowed. The short forms are
no exceptions. -/
theorem parse_eq_ok_iff {raw : String} :
    parse raw = .ok t ↔
      (∀ e ∈ contents (raw.toList.splitOn ';'), Allows e.1 e.2) ∧
        (contents (raw.toList.splitOn ';')).foldl noting {} = t := by
  have htext : (Text.trimmed raw).toList = Text.trim raw.toList := String.toList_ofList
  rw [← contents_trim, ← addEntries_eq_ok_iff, ← Text.splitAll_eq_splitOn, ← htext, parse]
  generalize Text.trimmed raw = text
  split
  · rename_i hshort
    rw [Bool.or_eq_true, decide_eq_true_iff, decide_eq_true_iff] at hshort
    have hentry : addEntries {} (Text.splitAll ';' text.toList) = .ok { ignore := true } := by
      rcases hshort with rfl | rfl <;> rfl
    rw [hentry, Except.ok.injEq, Except.ok.injEq]
  · cases addEntries {} (Text.splitAll ';' text.toList) with
    | error reason => simp [Result.fail]
    | ok u => rw [Except.ok.injEq, Except.ok.injEq]

theorem toOption_parse_eq {raw raw' : String}
    (hallows : (∀ e ∈ contents (raw.toList.splitOn ';'), Allows e.1 e.2) ↔
      ∀ e ∈ contents (raw'.toList.splitOn ';'), Allows e.1 e.2)
    (hnoting : (contents (raw.toList.splitOn ';')).foldl noting {} =
      (contents (raw'.toList.splitOn ';')).foldl noting {}) :
    (parse raw).toOption = (parse raw').toOption := by
  ext t
  rw [Result.toOption_eq_some, Result.toOption_eq_some, parse_eq_ok_iff, parse_eq_ok_iff, hallows,
    hnoting]

/-- With no key twice, what entries write does not go by their order. -/
theorem foldl_noting_perm {es es' : List (String × String)} (h : es ~ es')
    (hkeys : (es.map Prod.fst).Nodup) (t : Tag) : es.foldl noting t = es'.foldl noting t := by
  refine h.foldl_eq' (fun e he e' he' t => ?_) t
  by_cases hkey : e.1 = e'.1
  · rw [List.inj_on_of_nodup_map hkeys he he' hkey]
  · exact noting_comm hkey

theorem nodup_keys {parts : List (List Char)} (h : (entries parts).Pairwise Apart) :
    ((contents parts).map Prod.fst).Nodup := by
  rw [contents, List.map_map, List.nodup_iff_pairwise_ne, List.pairwise_map]
  exact h.imp apart_iff.mp

/-- The text of a list of parts. -/
def listing (parts : List (List Char)) : String :=
  .ofList ([';'].intercalate parts)

theorem splitOn_listing {parts : List (List Char)} (hne : parts ≠ [])
    (h : ∀ p ∈ parts, ';' ∉ p) : (listing parts).toList.splitOn ';' = parts := by
  rw [listing, String.toList_ofList, List.splitOn_intercalate ';' h hne]

/-- A tag is read if each of its entries is allowed; blanks do not matter, and neither does the
order of entries with different keys. -/
theorem parse_accepts_entries :
    (∀ raw, (∃ t, parse raw = .ok t) ↔
        ∀ p ∈ raw.toList.splitOn ';', ¬ Text.Blank p →
          ∃ key value, States p (key, value) ∧ Allows key value) ∧
      (∀ raw raw',
        List.Forall₂ Padded (entries (raw.toList.splitOn ';')) (entries (raw'.toList.splitOn ';')) →
        (parse raw).toOption = (parse raw').toOption) ∧
      ∀ parts parts', (∀ p ∈ parts, ';' ∉ p) → (entries parts).Pairwise Apart → parts ~ parts' →
        (parse (listing parts)).toOption = (parse (listing parts')).toOption := by
  refine ⟨fun raw => ?_, fun raw raw' h => ?_, fun parts parts' hparts hapart hperm => ?_⟩
  · simp only [parse_eq_ok_iff, exists_and_left, exists_eq', and_true, contents, entries,
      List.forall_mem_map, List.mem_filter, decide_eq_true_eq, and_imp]
    refine forall₂_congr fun p _ => imp_congr_right fun _ => ?_
    simp only [states_iff]
    generalize keyValue (Text.trim p) = e
    obtain ⟨key, value⟩ := e
    simp
  · have hcontents := contents_of_padded h
    exact toOption_parse_eq (by rw [hcontents]) (by rw [hcontents])
  · rcases eq_or_ne parts [] with rfl | hne
    · rw [List.nil_perm.mp hperm]
    · have hne' : parts' ≠ [] := by
        rintro rfl
        exact hne (List.perm_nil.mp hperm)
      have hparts' : ∀ p ∈ parts', ';' ∉ p := fun p hp => hparts p (hperm.mem_iff.mpr hp)
      have hcontents := contents_perm hperm
      apply toOption_parse_eq <;> rw [splitOn_listing hne hparts, splitOn_listing hne' hparts']
      · exact forall_congr' fun e => by rw [hcontents.mem_iff]
      · exact foldl_noting_perm hcontents (nodup_keys hapart) {}

theorem parse_accepts_entries_ignore :
    List.Forall₂ Padded (entries ("-".toList.splitOn ';')) (entries (" ; - ".toList.splitOn ';')) ∧
      (parse " ; - ").toOption = (parse "-").toOption ∧
      (entries ["-".toList, [], "col:x".toList]).Pairwise Apart ∧
      (parse "-;;col:x").toOption = (parse "col:x;-;").toOption ∧
      parse "col:x;-;" = .ok { ignore := true, column := some "x" } := by
  have hpadded : List.Forall₂ Padded (entries ("-".toList.splitOn ';'))
      (entries (" ; - ".toList.splitOn ';')) := by
    have hleft : entries ("-".toList.splitOn ';') = [['-']] := by decide
    have hright : entries (" ; - ".toList.splitOn ';') = [[' '] ++ ['-'] ++ [' ']] := by decide
    rw [hleft, hright]
    exact .cons (.key (by decide) (.mk (by decide) (by decide))) .nil
  have hapart : (entries ["-".toList, [], "col:x".toList]).Pairwise Apart := by decide
  obtain ⟨-, hblanks, horder⟩ := parse_accepts_entries
  refine ⟨hpadded, (hblanks _ _ hpadded).symm, hapart, ?_, ?_⟩
  · exact horder ["-".toList, [], "col:x".toList] ["col:x".toList, "-".toList, []] (by decide)
      hapart (by decide)
  · exact Result.toOption_eq_some.mp (by decide +kernel)

end Tag

end SqlMapping
