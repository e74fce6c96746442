-- SUMMARY: Tables and books by what they are made of, and finding a phrase by its key.
import Mathlib.Data.List.Nodup
import Phrasebook.Book.Basic
import Phrasebook.Proofs.Text.Sorting

/-!
# Tables and books

A table has every key once, so that a phrase is the one that is found under its
key. A book is one of the tables it was made of.
-/

namespace Phrasebook

namespace Table

variable {t : Table} {p : Phrase} {phrases : List Phrase} {key : String}

theorem ofPhrases_eq_ok_iff {locale : Locale} {t : Table} :
    ofPhrases locale phrases = .ok t ↔ t.locale = locale ∧ t.phrases = phrases := by
  unfold ofPhrases
  split
  · rename_i hnodup
    rw [Except.ok.injEq]
    constructor
    · rintro rfl
      exact ⟨rfl, rfl⟩
    · cases t
      rintro ⟨rfl, rfl⟩
      rfl
  · rename_i hnodup
    simp only [reduceCtorEq, false_iff]
    rintro ⟨rfl, rfl⟩
    exact hnodup t.keys_nodup

theorem get?_eq_none_iff_forall : t.get? key = none ↔ ∀ p ∈ t.phrases, p.key ≠ key := by
  simp [get?]

theorem get?_eq_none_iff : t.get? key = none ↔ key ∉ t.keys := by
  simp [get?_eq_none_iff_forall, keys]

theorem get?_eq_some_iff : t.get? key = some p ↔ p ∈ t.phrases ∧ p.key = key := by
  constructor
  · intro h
    exact ⟨List.mem_of_find?_eq_some h, by simpa using List.find?_some h⟩
  · rintro ⟨hp, rfl⟩
    cases hget : t.get? p.key with
    | none => exact absurd (List.mem_map_of_mem hp) (get?_eq_none_iff.mp hget)
    | some q =>
      have hq := List.mem_of_find?_eq_some hget
      have hkey : q.key = p.key := by simpa using List.find?_some hget
      rw [List.inj_on_of_nodup_map t.keys_nodup hq hp hkey]

theorem nodup_phrases (t : Table) : t.phrases.Nodup :=
  List.Nodup.of_map _ t.keys_nodup

end Table

namespace Book

theorem ofTables_eq_ok {locale : Locale} {tables : List Table} {b : Book}
    (h : ofTables locale tables = .ok b) : b.defaultLocale = locale ∧ b.tables = tables := by
  unfold ofTables at h
  split at h
  · cases h
    exact ⟨rfl, rfl⟩
  · cases h

theorem defaultTable_mem (b : Book) :
    b.defaultTable ∈ b.tables ∧ b.defaultTable.locale = b.defaultLocale := by
  have hfound : b.table? b.defaultLocale = some b.defaultTable := by
    simp [Book.defaultTable]
  exact ⟨List.mem_of_find?_eq_some hfound, by simpa using List.find?_some hfound⟩

/-- The default table is the first one of the default locale; the others are those around it. -/
theorem exists_around_defaultTable (b : Book) :
    ∃ before after, b.tables = before ++ b.defaultTable :: after ∧
      (∀ t ∈ before, t.locale ≠ b.defaultLocale) ∧ b.otherTables = before ++ after := by
  obtain ⟨hmem, hlocale⟩ := b.defaultTable_mem
  obtain ⟨t, before, after, hbefore, ht, htables, hothers⟩ :=
    List.exists_of_eraseP hmem (p := (·.locale == b.defaultLocale)) (by simpa using hlocale)
  have hfound : b.table? b.defaultLocale = some t := by
    rw [table?, htables, List.find?_eq_some_iff_append]
    exact ⟨ht, before, after, rfl, fun t' ht' => by simpa using hbefore t' ht'⟩
  have hdefault : b.defaultTable = t := by simp [defaultTable, hfound]
  rw [hdefault]
  exact ⟨before, after, htables, fun t' ht' => by simpa using hbefore t' ht', hothers⟩

theorem cons_otherTables_perm (b : Book) : (b.defaultTable :: b.otherTables).Perm b.tables := by
  obtain ⟨before, after, htables, -, hothers⟩ := b.exists_around_defaultTable
  rw [htables, hothers]
  exact List.perm_middle.symm

theorem tablesByTag_perm (b : Book) : b.tablesByTag.Perm b.tables :=
  ((Text.sortBy_perm _ _).cons _).trans b.cons_otherTables_perm

theorem mem_tablesByTag {b : Book} {t : Table} : t ∈ b.tablesByTag ↔ t ∈ b.tables :=
  b.tablesByTag_perm.mem_iff

/-- Where the tags are distinct, the order of the tables does not matter. -/
theorem tablesByTag_of_perm {b b' : Book} (hlocale : b'.defaultLocale = b.defaultLocale)
    (hperm : b'.tables.Perm b.tables) (hnodup : (b.tables.map (·.locale.tag)).Nodup) :
    b'.tablesByTag = b.tablesByTag := by
  have hdefault : b'.defaultTable = b.defaultTable := by
    obtain ⟨hmem, hhome⟩ := b.defaultTable_mem
    obtain ⟨hmem', hhome'⟩ := b'.defaultTable_mem
    refine List.inj_on_of_nodup_map hnodup (hperm.mem_iff.mp hmem') hmem ?_
    rw [hhome', hhome, hlocale]
  have hothers : b'.otherTables.Perm b.otherTables := by
    have hall := b'.cons_otherTables_perm.trans (hperm.trans b.cons_otherTables_perm.symm)
    rw [hdefault] at hall
    exact hall.cons_inv
  have htags : (b'.otherTables.map (·.locale.tag)).Nodup := by
    have hall := (b.cons_otherTables_perm.map (·.locale.tag)).nodup_iff.mpr hnodup
    exact (hothers.map _).nodup_iff.mpr (List.nodup_cons.mp hall).2
  rw [tablesByTag, tablesByTag, hdefault, Text.sortBy_eq_of_perm hothers htags]

end Book

end Phrasebook
