import EntityQuery.Proofs.BuilderCalls
import EntityQuery.Proofs.SortTexts

/-!
# Sort keys that can be written back

A word between white space can be made of dots alone. As a path it has no name then, and neither text of its key is read
as the key again. All other keys that are read from a text have a path of plain names (`isWord_of_read`), so they are
read back from both of their texts (`read_texts_iff`).

The order of a statement that was built from sort texts is made of such keys, up to direction: every builder call keeps
that (`OrderedBy.attempt`), so every run of calls does (`OrderedBy.run`).
-/

namespace EntityQuery

open Text

variable {k : SortKey} {s : String}

/-! ## Keys that are read -/

theorem Path.isWord_ofText {word : List Char} (hword : ∀ c ∈ word, isBlankChar c = false)
    (hne : (Path.ofText (String.ofList word)).segments ≠ []) : (Path.ofText (String.ofList word)).IsWord where
  segments_ne_nil := hne
  proper segment hsegment :=
    ⟨ne_empty_of_mem_splitSegments hsegment, fun hdot => (mem_of_mem_ofText hsegment '.' hdot).2 rfl⟩
  not_blank segment hsegment c hc := by
    have hmem := (mem_of_mem_ofText hsegment c hc).1
    rw [String.toList_ofList] at hmem
    exact hword c hmem

namespace SortKey

theorem isWord_of_read (h : read s = .ok k) (hne : k.path.segments ≠ []) : k.path.IsWord := by
  obtain ⟨word, after, hfirst, hpath, -⟩ := (read_eq_ok_iff.1 h).exists_firstWord
  rw [hpath] at hne ⊢
  exact Path.isWord_ofText hfirst.word_chars hne

theorem segments_ne_nil_iff_of_read (h : read s = .ok k) :
    k.path.segments ≠ [] ↔ ∃ word after, FirstWord (trimChars s.toList) word after ∧ ∃ c ∈ word, c ≠ '.' := by
  obtain ⟨word, after, hfirst, hpath, -⟩ := (read_eq_ok_iff.1 h).exists_firstWord
  rw [hpath, Path.segments_ofText_ne_nil_iff, String.toList_ofList]
  constructor
  · intro hname
    exact ⟨word, after, hfirst, hname⟩
  · rintro ⟨word', after', hfirst', hname⟩
    rwa [← hfirst.takeWhile, hfirst'.takeWhile]

theorem read_of_spells (h : Spells s.toList k) : read s = .ok k := by
  rw [read_eq_ok_iff, h.trimmed]
  exact h

/-! ### Keys without a name -/

theorem read_toText_nameless (d : SortDirection) :
    read (⟨⟨[]⟩, d⟩ : SortKey).toText = .ok ⟨⟨[d.keyword]⟩, .ascending⟩ := by
  cases d <;> rfl

theorem read_clause_nameless :
    read (⟨⟨[]⟩, .ascending⟩ : SortKey).clause = .error (.unknownSortDirection "") ∧
      (⟨⟨[]⟩, .descending⟩ : SortKey).clause = (⟨⟨[]⟩, .descending⟩ : SortKey).toText :=
  ⟨rfl, rfl⟩

/-- A key that is read back has a name, and the converse if its names are plain. -/
theorem read_texts_iff (h : k.path.segments ≠ [] → k.path.IsWord) :
    (read k.toText = .ok k ↔ k.path.segments ≠ []) ∧ (read k.clause = .ok k ↔ k.path.segments ≠ []) := by
  by_cases hnil : k.path.segments = []
  · obtain ⟨⟨segments⟩, d⟩ := k
    cases hnil
    have htext : read (⟨⟨[]⟩, d⟩ : SortKey).toText ≠ .ok ⟨⟨[]⟩, d⟩ := by
      rw [read_toText_nameless]
      simp
    have hclause : read (⟨⟨[]⟩, d⟩ : SortKey).clause ≠ .ok ⟨⟨[]⟩, d⟩ := by
      cases d with
      | ascending => simp [read_clause_nameless.1]
      | descending => rwa [read_clause_nameless.2]
    simp [htext, hclause]
  · have hword := h hnil
    simp [read_of_spells (spells_toText hword), read_of_spells (spells_clause hword), hnil]

end SortKey

/-! ## The order of a statement -/

namespace BuilderCall

variable {σ : Type} {kind : RowKind} {texts : List String} {t : Rows kind σ} {calls : List (BuilderCall σ kind)}

def sortText? : BuilderCall σ kind → Option String
  | sort text => some text
  | _ => none

/-- Each key is one that was read from one of the texts, up to its direction. -/
def OrderedBy (texts : List String) (t : Rows kind σ) : Prop :=
  ∀ key ∈ t.clauses.sort, ∃ text ∈ texts, ∃ k, SortKey.read text = .ok k ∧ k.path = key.path

/-- **Every call keeps that**, unless it adds a key that was not read from a text. -/
theorem OrderedBy.attempt (h : OrderedBy texts t) {c : BuilderCall σ kind}
    (htext : ∀ text, c.sortText? = some text → text ∈ texts) (hkey : ∀ key, c ≠ .sortBy key) :
    OrderedBy texts (c.attempt t) := by
  by_cases ha : c.aspect = .order
  · cases c with
    | sort text =>
      cases hread : SortKey.read text with
      | error err =>
        rwa [attempt_of_error (by rw [apply, RowStatement.sort, hread]; rfl)]
      | ok k =>
        rw [attempt_of_ok (by rw [apply, RowStatement.sort, hread]; rfl)]
        intro key hmem
        rcases List.mem_append.1 hmem with hold | hnew
        · exact h key hold
        · rw [List.mem_singleton.1 hnew]
          exact ⟨text, htext text rfl, k, hread, rfl⟩
    | sortBy key => exact absurd rfl (hkey key)
    -- the direction changes, the path does not
    | reverse =>
      intro key hmem
      obtain ⟨old, hold, rfl⟩ := List.mem_map.1 hmem
      exact h old hold
    | clearSort =>
      intro key hmem
      cases hmem
    | _ => cases ha
  · -- a call about something else leaves the order as it is
    have hsort := Part.order.inj (part_attempt_of_ne (s := t) (Ne.symm ha))
    rw [OrderedBy, hsort]
    exact h

theorem OrderedBy.run (h : OrderedBy texts t) (htexts : ∀ c ∈ calls, ∀ text, c.sortText? = some text → text ∈ texts)
    (hkeys : ∀ key, .sortBy key ∉ calls) : OrderedBy texts (run t calls) := by
  induction calls generalizing t with
  | nil => exact h
  | cons c calls ih =>
    obtain ⟨hc, hcalls⟩ := List.forall_mem_cons.1 htexts
    refine ih (h.attempt hc fun key heq => hkeys key (heq ▸ List.mem_cons_self)) hcalls fun key hmem => ?_
    exact hkeys key (List.mem_cons_of_mem c hmem)

end BuilderCall

/-! ## The main statement -/

open SortKey in
/-- **A key that is read from a text is written back if it has a name.** It has none just if the word of the text is
made of dots. So the order of a statement that was built from sort texts has a key that is written empty or not written
back only where the word of one of these texts is made of dots. -/
theorem keys_written_back_if_named {σ : Type} {kind : RowKind} (t : Rows kind σ) (calls : List (BuilderCall σ kind)) :
    (∀ s k, read s = .ok k →
      (read k.toText = .ok k ↔ k.path.segments ≠ []) ∧ (read k.clause = .ok k ↔ k.path.segments ≠ []) ∧
      (k.path.segments ≠ [] ↔ ∃ word after, FirstWord (trimChars s.toList) word after ∧ ∃ c ∈ word, c ≠ '.')) ∧
    (t.clauses.sort = [] → (∀ key, .sortBy key ∉ calls) →
      ∀ key ∈ (BuilderCall.run t calls).clauses.sort, ∃ text k, .sort text ∈ calls ∧ read text = .ok k ∧
        k.path = key.path ∧ (read key.clause = .ok key ↔ k.path.segments ≠ []) ∧
        (key.path.toText = "" ↔ k.path.segments = [])) := by
  refine ⟨fun s k h => ?_, fun hsort hkeys key hkey => ?_⟩
  · obtain ⟨htext, hclause⟩ := read_texts_iff (isWord_of_read h)
    exact ⟨htext, hclause, segments_ne_nil_iff_of_read h⟩
  · have hstart : BuilderCall.OrderedBy (calls.filterMap BuilderCall.sortText?) t := by
      intro key hmem
      rw [hsort] at hmem
      cases hmem
    have hrun := hstart.run (fun c hc text htext => List.mem_filterMap.2 ⟨c, hc, htext⟩) hkeys
    obtain ⟨text, htext, k, hread, hpath⟩ := hrun key hkey
    obtain ⟨c, hc, hsaid⟩ := List.mem_filterMap.1 htext
    have hcall : .sort text ∈ calls := by
      cases c with
      | sort other =>
        cases hsaid
        exact hc
      | _ => cases hsaid
    have hword := isWord_of_read hread
    refine ⟨text, k, hcall, hread, hpath, ?_, ?_⟩
    · rw [hpath] at hword ⊢
      exact (read_texts_iff hword).2
    · rw [← hpath]
      constructor
      · intro hempty
        by_contra hne
        exact (hword hne).toText_ne_nil (by rw [hempty]; rfl)
      · intro hnil
        rw [Path.toText, hnil]
        rfl

open BuilderCall in
/-- A text with an empty piece in its path, and the order of a select that is built with it and then turned round. -/
theorem key_with_dots_written_back :
    SortKey.read (Path.ofText "parent.name").descending.clause = .ok (Path.ofText "parent.name").descending ∧
    ∀ key ∈ (run (k := .select) (Select.ofType "Task" : Select Unit)
        [sort "name", sort "parent..name desc", reverse]).clauses.sort,
      ∃ text k, sort text ∈ [sort "name", sort "parent..name desc", (reverse : BuilderCall Unit .select)] ∧
        SortKey.read text = .ok k ∧ k.path = key.path ∧
        (SortKey.read key.clause = .ok key ↔ k.path.segments ≠ []) ∧
        (key.path.toText = "" ↔ k.path.segments = []) := by
  obtain ⟨htexts, hkeys⟩ := @keys_written_back_if_named Unit .select (Select.ofType "Task")
    [sort "name", sort "parent..name desc", reverse]
  exact ⟨((htexts "parent..name desc" (Path.ofText "parent.name").descending rfl).2.1).2 (by decide),
    hkeys rfl (by simp)⟩

/-- Dots alone are read as a key without a name. The order that is made of it is written empty. -/
theorem dots_not_written_back :
    SortKey.read "." = .ok (Path.ofText "").ascending ∧
    SortKey.read (Path.ofText "").ascending.toText = .ok (Path.ofText "ascending").ascending ∧
    SortKey.read (Path.ofText "").ascending.clause = .error (.unknownSortDirection "") ∧
    (BuilderCall.run (k := .select) (Select.ofType "Task" : Select Unit) [.sort "."]).toStatement.text =
      "Task order by" :=
  ⟨rfl, rfl, rfl, by decide⟩

end EntityQuery
