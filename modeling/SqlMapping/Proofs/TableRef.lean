import SqlMapping.Proofs.Alias
import SqlMapping.Proofs.Session.Finding
import SqlMapping.TableRef

/-! # Tables and their texts

A line is cut at its last `as` between blanks. The text of a table has such a word between the name
and the alias; it reads as the table if no other one comes after it. -/

namespace SqlMapping

namespace Alias

variable {cs before after : List Char} {b d : Char}

/-! ## Lines -/

/-- A text as its name and its alias: what stands before and after the last `as` between blanks, or
the whole text. -/
inductive Cuts : List Char → String × String → Prop
  | last {before after : List Char} {b d : Char} (hb : Text.isBlank b) (hd : Text.isBlank d)
      (hlast : ¬ HasWord (word ++ d :: after)) :
      Cuts (before ++ b :: word ++ d :: after)
        (.ofList (Text.trim before), .ofList (Text.trim after))
  | whole {cs : List Char} (h : ¬ HasWord cs) : Cuts cs (.ofList (Text.trim cs), "")

theorem hasWord_cut (hb : Text.isBlank b) (hd : Text.isBlank d) :
    HasWord (before ++ b :: word ++ d :: after) :=
  ⟨b, d, hb, hd, before, after, by simp⟩

/-- The word of a text stands at its head or further on. -/
theorem hasWord_cons {c : Char} :
    HasWord (c :: cs) ↔
      (∃ d after, Text.isBlank c ∧ Text.isBlank d ∧ cs = word ++ d :: after) ∨ HasWord cs := by
  constructor
  · rintro ⟨b, d, hb, hd, hinfix⟩
    rcases List.infix_cons_iff.mp hinfix with ⟨after, hhead⟩ | hrest
    · obtain ⟨rfl, rfl⟩ := List.cons.inj hhead
      exact .inl ⟨d, after, hb, hd, by simp⟩
    · exact .inr ⟨b, d, hb, hd, hrest⟩
  · rintro (⟨d, after, hc, hd, rfl⟩ | ⟨b, d, hb, hd, hrest⟩)
    · exact @hasWord_cut [] after c d hc hd
    · exact ⟨b, d, hb, hd, List.infix_cons hrest⟩

theorem exists_last (h : HasWord cs) :
    ∃ before b d after, Text.isBlank b ∧ Text.isBlank d ∧ ¬ HasWord (word ++ d :: after) ∧
      cs = before ++ b :: word ++ d :: after := by
  induction cs with
  | nil =>
      obtain ⟨b, d, -, -, hinfix⟩ := h
      simp at hinfix
  | cons c cs ih =>
      by_cases hcs : HasWord cs
      · obtain ⟨before, b, d, after, hb, hd, hlast, rfl⟩ := ih hcs
        exact ⟨c :: before, b, d, after, hb, hd, hlast, rfl⟩
      · obtain ⟨d, after, hc, hd, rfl⟩ := (hasWord_cons.mp h).resolve_right hcs
        exact ⟨[], c, d, after, hc, hd, hcs, rfl⟩

/-- The rest of a word is no blank, so that no other word begins in it. -/
theorem hasWord_word_append : HasWord (word ++ cs) ↔ HasWord cs := by
  have ha : ¬ Text.isBlank 'a' := by decide
  have hs : ¬ Text.isBlank 's' := by decide
  simp [word, hasWord_cons, ha, hs]

theorem laterLines_of_line (h : '\n' ∉ cs) : laterLines cs = [] := by
  induction cs with
  | nil => rfl
  | cons c cs ih =>
      obtain ⟨hc, hcs⟩ := List.ne_and_not_mem_of_not_mem_cons h
      rw [laterLines, if_neg (Ne.symm hc), ih hcs]

theorem divide?_of_line (h : '\n' ∉ cs) : divide? cs = lastOnLine? [] cs := by
  rw [divide?, laterLines_of_line h, List.findSome?_cons]
  cases lastOnLine? [] cs <;> rfl

theorem lastOnLine?_eq_none (hline : '\n' ∉ cs) (h : ¬ HasWord cs) (passed : List Char) :
    lastOnLine? passed cs = none := by
  have hsome := @exists_lastOnLine?_iff cs passed
  rw [laterLines_of_line hline, ← hasWord_iff] at hsome
  simpa [h] using hsome

/-- A line is divided at its last word, whatever was passed before it. -/
theorem lastOnLine?_cut (hb : Text.isBlank b) (hd : Text.isBlank d)
    (hlast : ¬ HasWord (word ++ d :: after))
    (hline : '\n' ∉ before ++ b :: word ++ d :: after) (passed : List Char) :
    lastOnLine? passed (before ++ b :: word ++ d :: after) =
      some (passed.reverse ++ before, Text.trimStart after) := by
  induction before generalizing passed with
  | nil =>
      obtain ⟨hne, hrest⟩ : '\n' ≠ b ∧ '\n' ∉ word ++ d :: after :=
        List.ne_and_not_mem_of_not_mem_cons hline
      have hhere : afterWord? (b :: (word ++ d :: after)) = some (Text.trimStart after) := by
        simp only [afterWord?, hb, if_true, word, List.cons_append, List.nil_append]
        rw [List.dropWhile_cons_of_neg (by decide)]
        simp only [hd, if_true]
        rfl
      change lastOnLine? passed (b :: (word ++ d :: after)) = _
      rw [lastOnLine?, if_neg (Ne.symm hne), lastOnLine?_eq_none hrest hlast, hhere]
      simp
  | cons c before ih =>
      obtain ⟨hne, hrest⟩ := List.ne_and_not_mem_of_not_mem_cons hline
      change lastOnLine? passed (c :: (before ++ b :: word ++ d :: after)) = _
      rw [lastOnLine?, if_neg (Ne.symm hne), ih hrest]
      simp

theorem split_of_cuts {s : String} {r : String × String} (hline : '\n' ∉ s.toList)
    (h : Cuts s.toList r) : split s = r := by
  generalize hcs : s.toList = cs at h hline
  cases h with
  | last hb hd hlast =>
      rename_i before after b d
      have hafter : '\n' ∉ Text.trimStart after := by
        intro h
        exact hline (List.mem_append_right _
          (List.mem_cons_of_mem _ ((Text.trimStart_sublist after).subset h)))
      have hkept : line (Text.trimStart after) = Text.trimStart after := by
        rw [line, List.takeWhile_eq_self_iff]
        rintro c hc
        simpa using fun heq : c = '\n' => hafter (heq ▸ hc)
      rw [split, hcs, divide?_of_line hline, lastOnLine?_cut hb hd hlast hline]
      simp [hkept, Text.trim_trimStart]
  | whole h =>
      rw [split, hcs, divide?_of_line hline, lastOnLine?_eq_none hline h, Text.trimmed, hcs]

theorem exists_cuts (cs : List Char) : ∃ r, Cuts cs r := by
  by_cases h : HasWord cs
  · obtain ⟨before, b, d, after, hb, hd, hlast, rfl⟩ := exists_last h
    exact ⟨_, .last hb hd hlast⟩
  · exact ⟨_, .whole h⟩

/-- A line is split where it is cut, and nowhere else. -/
theorem split_eq_iff {s : String} (hline : '\n' ∉ s.toList) {r : String × String} :
    split s = r ↔ Cuts s.toList r := by
  refine ⟨?_, split_of_cuts hline⟩
  rintro rfl
  obtain ⟨r, hr⟩ := exists_cuts s.toList
  rwa [split_of_cuts hline hr]

/-- The word at the head of a text, alone or before a blank. -/
def StartsWithWord (cs : List Char) : Prop :=
  word <+: cs ∧ ∀ d ∈ (cs.drop word.length).head?, Text.isBlank d

/-- The word at the end of a text, alone or after a blank. -/
def EndsWithWord (cs : List Char) : Prop :=
  word <:+ cs ∧ ∀ b ∈ (cs.take (cs.length - word.length)).getLast?, Text.isBlank b

instance (cs : List Char) : Decidable (StartsWithWord cs) :=
  decidable_of_iff (word <+: cs ∧ (cs.drop word.length).head?.all Text.isBlank)
    (and_congr_right' (Option.all_eq_true _ _))

instance (cs : List Char) : Decidable (EndsWithWord cs) :=
  decidable_of_iff
    (word <:+ cs ∧ (cs.take (cs.length - word.length)).getLast?.all Text.isBlank)
    (and_congr_right' (Option.all_eq_true _ _))

theorem not_hasWord_cons (hplain : ¬ HasWord cs)
    (hstart : ¬ StartsWithWord cs) : ¬ HasWord (b :: cs) := by
  intro h
  obtain ⟨d, after, -, hd, rfl⟩ := (hasWord_cons.mp h).resolve_right hplain
  exact hstart ⟨⟨d :: after, rfl⟩, by simpa [word] using hd⟩

end Alias

/-! ## Tables -/

namespace TableRef

/-- A table with a name, and perhaps an alias, that are plain texts of one line. With an alias,
neither of the two starts or ends with the word between them. -/
structure Separable (t : TableRef) : Prop where
  named : t.name ≠ ""
  name : Alias.Plain t.name
  aliasName : Alias.Plain t.aliasName
  line : '\n' ∉ t.name.toList ∧ '\n' ∉ t.aliasName.toList
  apart : t.aliasName ≠ "" → ∀ s ∈ [t.name, t.aliasName],
    ¬ Alias.StartsWithWord s.toList ∧ ¬ Alias.EndsWithWord s.toList

variable {t : TableRef}

theorem display_of_alias_empty (h : t.aliasName = "") : t.display = t.name :=
  if_pos (by simp [h])

theorem toList_display (h : t.aliasName ≠ "") :
    t.display.toList = t.name.toList ++ ' ' :: Alias.word ++ ' ' :: t.aliasName.toList := by
  rw [display, if_neg (by simpa using h)]
  simp [Alias.word]

theorem parse_eq_iff {s : String} : parse s = t ↔ Alias.split s = (t.name, t.aliasName) := by
  constructor
  · rintro rfl
    rfl
  · intro h
    rw [parse, h]

/-- If no word follows the one that is written, name and alias are read where they stand. -/
theorem split_display (halias : t.aliasName ≠ "") (hline : '\n' ∉ t.display.toList)
    (hword : ¬ Alias.HasWord (' ' :: t.aliasName.toList)) :
    Alias.split t.display = (Text.trimmed t.name, Text.trimmed t.aliasName) := by
  have hblank : Text.isBlank ' ' := by decide
  refine Alias.split_of_cuts hline ?_
  rw [toList_display halias]
  exact .last hblank hblank (Alias.hasWord_word_append.not.mpr hword)

/-- If another word follows, the alias is cut once more and gets shorter. -/
theorem split_display_snd_ne (halias : t.aliasName ≠ "") (hline : '\n' ∉ t.display.toList)
    (hword : Alias.HasWord (' ' :: t.aliasName.toList)) :
    (Alias.split t.display).2 ≠ t.aliasName := by
  obtain ⟨before, b, d, after, hb, hd, hlast, hrest⟩ := Alias.exists_last hword
  have htext : t.display.toList =
      t.name.toList ++ ' ' :: Alias.word ++ before ++ b :: Alias.word ++ d :: after := by
    rw [toList_display halias, hrest]
    simp
  obtain ⟨name, hcut⟩ :
      ∃ name, Alias.Cuts t.display.toList (name, .ofList (Text.trim after)) := by
    rw [htext]
    exact ⟨_, .last hb hd hlast⟩
  have hsplit := Alias.split_of_cuts hline hcut
  have hlength := congrArg List.length hrest
  have hshorter := (Text.trim_sublist after).length_le
  intro heq
  rw [hsplit] at heq
  rw [← heq] at hlength
  simp at hlength
  omega

/-- The text of a table reads as the table if name and alias have no blanks around them, and no
other `as` between blanks comes after the one that is written. -/
theorem parse_display_iff (hline : '\n' ∉ t.display.toList) :
    parse t.display = t ↔
      Text.trimmed t.name = t.name ∧ Text.trimmed t.aliasName = t.aliasName ∧
        ¬ Alias.HasWord
          (if t.aliasName = "" then t.name.toList else ' ' :: t.aliasName.toList) := by
  rw [parse_eq_iff]
  by_cases halias : t.aliasName = ""
  · rw [display_of_alias_empty halias] at hline ⊢
    rw [if_pos halias, halias]
    constructor
    · intro h
      obtain ⟨htrimmed, hplain⟩ := Alias.split_fst_eq_iff.mp (congrArg (·.1) h)
      exact ⟨htrimmed, rfl, hplain⟩
    · rintro ⟨htrimmed, -, hplain⟩
      have hcut := Alias.split_of_cuts hline (.whole hplain)
      rwa [← Text.trimmed, htrimmed] at hcut
  · rw [if_neg halias]
    constructor
    · intro h
      have hword : ¬ Alias.HasWord (' ' :: t.aliasName.toList) := fun hword =>
        split_display_snd_ne halias hline hword (congrArg (·.2) h)
      rw [split_display halias hline hword] at h
      exact ⟨congrArg (·.1) h, congrArg (·.2) h, hword⟩
    · rintro ⟨hname, haliasName, hword⟩
      rw [split_display halias hline hword, hname, haliasName]

theorem Separable.parse_display (h : t.Separable) : parse t.display = t := by
  have hline : '\n' ∉ t.display.toList := by
    by_cases halias : t.aliasName = ""
    · rw [display_of_alias_empty halias]
      exact h.line.1
    · rw [toList_display halias]
      simp [Alias.word, h.line]
  refine (parse_display_iff hline).mpr ⟨h.name.trimmed, h.aliasName.trimmed, ?_⟩
  split
  · exact h.name.undivided
  · rename_i halias
    have hstart := (h.apart halias t.aliasName (by simp)).1
    exact Alias.not_hasWord_cons h.aliasName.undivided hstart

end TableRef

/-- A query without a table takes the one that the object is mapped to, by its text. -/
theorem Plan.table_ofObject {naming : Naming} {aliases : Option (List (String × String))}
    {q : Query} {requested : List String} {o : Object} {p : Plan}
    (h : (ofObject naming aliases q requested o).1 = .ok p) (hempty : q.table.isEmpty) :
    p.query.table = .parse p.mapping.table.display := by
  rw [ofObject] at h
  split at h
  · cases h
  · obtain rfl := Except.ok.inj h
    simp [hempty, Query.setTable, Query.noteAlias]

namespace Session

/-- A line is cut at its last `as` between blanks. A table whose name and alias are clear of that
word reads as itself, so that a query without a table takes just the one that the object planned
for is mapped to. -/
theorem tables_read_back :
    (∀ s : String, '\n' ∉ s.toList → ∀ r, Alias.split s = r ↔ Alias.Cuts s.toList r) ∧
      (∀ t : TableRef, t.Separable → TableRef.parse t.display = t) ∧
      ∀ (s : Session) (aliases : Option (List (String × String))) (requested : List String)
        (o : Object) (p : Plan), (s.planFor aliases requested o).1 = .ok p →
        s.query.table.isEmpty → p.mapping.table.Separable → p.query.table = p.mapping.table := by
  refine ⟨fun s hline r => Alias.split_eq_iff hline, fun t ht => ht.parse_display, ?_⟩
  intro s aliases requested o p hplan hempty ht
  rw [ofObject_of_planFor hplan] at hplan
  rw [Plan.table_ofObject hplan hempty, ht.parse_display]

/-- A table whose name and alias start with the letters of the word, but not with the word. -/
def assetSales : TableRef := ⟨"asset sales", "as1"⟩

theorem separable_assetSales : assetSales.Separable where
  named := by decide
  name := by decide
  aliasName := by decide
  line := by decide
  apart := by decide

/-- A sale of an asset, mapped to its own table. -/
def sale : Object :=
  { label := "Sale", typeName := "Sale", table := "asset sales as as1", primaryKey := "id"
    members := [.field "id" "col:id" (.scalar (.text ""))] }

/-- A session whose query has no table. -/
def tableless : Session :=
  { naming := .snake, sharesCache := false, sink := none, query := .empty .mysql }

theorem tables_read_back_assetSales :
    Alias.split "t1 as a as b" = ("t1 as a", "b") ∧
      Alias.Cuts "t1 as a as b".toList ("t1 as a", "b") ∧
      assetSales.Separable ∧ TableRef.parse "asset sales as as1" = assetSales ∧
      ∃ p, (tableless.planFor none [] sale).1 = .ok p ∧ p.mapping.table = assetSales ∧
        p.query.table = assetSales := by
  have hsplit : Alias.split "t1 as a as b" = ("t1 as a", "b") := by decide +kernel
  have htable : ((tableless.planFor none [] sale).1.toOption.map fun p => p.mapping.table) =
      some assetSales := by decide +kernel
  obtain ⟨p, hsome, hp⟩ := Option.map_eq_some_iff.mp htable
  have hplan := Result.toOption_eq_some.mp hsome
  obtain ⟨hcuts, hparse, hadopts⟩ := tables_read_back
  refine ⟨hsplit, (hcuts _ (by decide) _).mp hsplit, separable_assetSales,
    hparse _ separable_assetSales, p, hplan, hp, ?_⟩
  rw [hadopts _ _ _ _ p hplan rfl (hp ▸ separable_assetSales), hp]

end Session

end SqlMapping
