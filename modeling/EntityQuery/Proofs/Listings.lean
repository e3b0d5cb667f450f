import EntityQuery.Proofs.Words

/-!
# Words of joined texts

The parts of a statement stand between blanks, and lists inside it between commas. The words of such a text are the
words of its parts, in a list with a comma at the last word of each part but the last (`words_intercalate`,
`words_listing`). `listing` and `sortKeys` read lists of names and of sort keys from the front of a row of words, and
`optional` reads a section that begins with a keyword or is not there; each gives back what was written and leaves what
follows.
-/

namespace EntityQuery.RawText

variable {cs w k : List Char} {parts texts names ws rest body keyword : List (List Char)} {p : Position}

/-! ## Blanks -/

theorem words_intercalate (hne : parts ≠ []) (h : ∀ part ∈ parts, Balanced part) :
    words ([' '].intercalate parts) = parts.flatMap words := by
  induction parts with
  | nil => exact absurd rfl hne
  | cons part rest ih =>
    cases rest with
    | nil => simp
    | cons next rest =>
      rw [List.intercalate_cons_cons, List.append_assoc, List.singleton_append, words_append (h part (by simp)),
        ih (by simp) fun q hq => h q (by simp [hq])]
      rfl

/-! ## Commas -/

def addComma : List (List Char) → List (List Char)
  | [] => []
  | [w] => [w ++ [',']]
  | w :: v :: ws => w :: addComma (v :: ws)

def listingWords : List (List (List Char)) → List (List Char)
  | [] => []
  | [ws] => ws
  | ws :: vs :: rest => addComma ws ++ listingWords (vs :: rest)

theorem addComma_modifyHead (c : Char) (ws : List (List Char)) :
    addComma (ws.modifyHead (c :: ·)) = (addComma ws).modifyHead (c :: ·) := by
  match ws with
  | [] => rfl
  | [w] => rfl
  | w :: v :: ws => rfl

theorem wordsFrom_comma (h : p.run cs = .start) : wordsFrom p (cs ++ [',']) = addComma (wordsFrom p cs) := by
  induction cs generalizing p with
  | nil =>
    rw [Position.run_nil] at h
    subst h
    rfl
  | cons c cs ih =>
    rw [List.cons_append, wordsFrom, wordsFrom]
    split_ifs with hblank
    · obtain ⟨rfl, rfl⟩ := hblank
      have hrun : Position.start.run cs = .start := h
      obtain ⟨w, ws, hws⟩ := List.exists_cons_of_ne_nil (wordsFrom_ne_nil .start cs)
      rw [ih hrun, hws]
      rfl
    · rw [ih h, addComma_modifyHead]

theorem words_comma (h : Balanced cs) : words (cs ++ [',']) = addComma (words cs) := wordsFrom_comma h.run_start

theorem words_listing (hne : texts ≠ []) (h : ∀ text ∈ texts, Balanced text) :
    words ([',', ' '].intercalate texts) = listingWords (texts.map words) := by
  induction texts with
  | nil => exact absurd rfl hne
  | cons text rest ih =>
    cases rest with
    | nil => simp [listingWords]
    | cons next rest =>
      have htext := h text (by simp)
      have hcomma : Balanced (text ++ [',']) := htext.append (balanced_of_all (by decide))
      have hsplit : [',', ' '].intercalate (text :: next :: rest) =
          (text ++ [',']) ++ ' ' :: [',', ' '].intercalate (next :: rest) := by
        simp [List.intercalate_cons_cons]
      rw [hsplit, words_append hcomma, words_comma htext, ih (by simp) fun q hq => h q (by simp [hq])]
      rfl

theorem listingWords_eq_nil {rows : List (List (List Char))} (h : ∀ row ∈ rows, row ≠ [])
    (hnil : listingWords rows = []) : rows = [] := by
  match rows, hnil with
  | [], _ => rfl
  | [row], hnil => exact absurd hnil (h row (by simp))
  | [] :: next :: rest, _ => exact absurd rfl (h [] (by simp))
  | [w] :: next :: rest, hnil => cases hnil
  | (w :: v :: ws) :: next :: rest, hnil => cases hnil

/-! ## Reading lists -/

/-- Reads names up to the first that no comma follows. -/
def listing : List (List Char) → List (List Char) × List (List Char)
  | [] => ([], [])
  | w :: ws =>
    if w.getLast? = some ',' then
      let (names, rest) := listing ws
      (w.dropLast :: names, rest)
    else ([w], ws)

theorem listing_listingWords (rest : List (List Char)) (hne : names ≠ [])
    (h : ∀ name ∈ names, name.getLast? ≠ some ',') :
    listing (listingWords (names.map fun name => [name]) ++ rest) = (names, rest) := by
  induction names with
  | nil => exact absurd rfl hne
  | cons name names ih =>
    cases names with
    | nil =>
      change listing (name :: rest) = _
      rw [listing, if_neg (h name (by simp))]
    | cons next names =>
      have hrest := ih (by simp) fun q hq => h q (by simp [hq])
      change listing ((name ++ [',']) :: (listingWords ((next :: names).map fun name => [name]) ++ rest)) = _
      rw [listing, if_pos (by simp), hrest, List.dropLast_concat]

def descendingWord : List Char := "descending".toList

/-- The words of a sort key: its path, and a word if it is descending. -/
def keyWords (key : List Char × Bool) : List (List Char) := if key.2 then [key.1, descendingWord] else [key.1]

theorem keyWords_ne_nil (key : List Char × Bool) : keyWords key ≠ [] := by
  rw [keyWords]
  split <;> exact List.cons_ne_nil _ _

def sortKeys : List (List Char) → List (List Char × Bool) × List (List Char)
  | [] => ([], [])
  | w :: ws =>
    if w.getLast? = some ',' then
      let (keys, rest) := sortKeys ws
      ((w.dropLast, false) :: keys, rest)
    else match ws with
      | [] => ([(w, false)], [])
      | v :: ws =>
        if v = descendingWord ++ [','] then
          let (keys, rest) := sortKeys ws
          ((w, true) :: keys, rest)
        else if v = descendingWord then ([(w, true)], ws)
        else ([(w, false)], v :: ws)

theorem sortKeys_listingWords {keys : List (List Char × Bool)} (hne : keys ≠ [])
    (h : ∀ key ∈ keys, key.1.getLast? ≠ some ',')
    (hrest : ∀ v ∈ rest.head?, v ≠ descendingWord ∧ v ≠ descendingWord ++ [',']) :
    sortKeys (listingWords (keys.map keyWords) ++ rest) = (keys, rest) := by
  induction keys with
  | nil => exact absurd rfl hne
  | cons key keys ih =>
    obtain ⟨name, descending⟩ := key
    have hname : name.getLast? ≠ some ',' := h (name, descending) (by simp)
    -- a comma at a word's end is what tells a key in the middle from the last one
    have hword : descendingWord ≠ descendingWord ++ [','] := by decide
    cases keys with
    | nil =>
      cases descending with
      | true =>
        change sortKeys (name :: descendingWord :: rest) = _
        rw [sortKeys.eq_def]
        simp only [if_neg hname, if_neg hword, if_true]
      | false =>
        change sortKeys (name :: rest) = _
        rw [sortKeys.eq_def]
        cases rest with
        | nil => simp only [if_neg hname]
        | cons v rest =>
          obtain ⟨hv, hv'⟩ := hrest v (by simp)
          simp only [if_neg hname, if_neg hv, if_neg hv']
    | cons next keys =>
      have hnext := ih (by simp) fun q hq => h q (by simp [hq])
      cases descending with
      | true =>
        change sortKeys (name :: (descendingWord ++ [',']) ::
          (listingWords ((next :: keys).map keyWords) ++ rest)) = _
        rw [sortKeys.eq_def]
        simp only [if_neg hname, if_true, hnext]
      | false =>
        change sortKeys ((name ++ [',']) :: (listingWords ((next :: keys).map keyWords) ++ rest)) = _
        rw [sortKeys.eq_def]
        simp only [List.getLast?_concat, if_true, hnext, List.dropLast_concat]

/-! ## Reading sections -/

def sectionWords (keyword body : List (List Char)) : List (List Char) :=
  if body = [] then [] else keyword ++ body

def optional {α : Type} (keyword : List (List Char)) (read : List (List Char) → List α × List (List Char))
    (ws : List (List Char)) : List α × List (List Char) :=
  if keyword.isPrefixOf ws then read (ws.drop keyword.length) else ([], ws)

def StartsIn (keywords ws : List (List Char)) : Prop := ∀ w ∈ ws.head?, w ∈ keywords

theorem StartsIn.section {keywords : List (List Char)} (h : StartsIn keywords rest) (k : List Char)
    (more body : List (List Char)) : StartsIn (k :: keywords) (sectionWords (k :: more) body ++ rest) := by
  intro w hw
  rw [sectionWords] at hw
  split at hw
  · exact List.mem_cons_of_mem k (h w hw)
  · rw [List.cons_append, List.cons_append, List.head?_cons, Option.mem_some_iff] at hw
    rw [← hw]
    exact List.mem_cons_self

/-- A section is read back, whatever follows, unless that begins with its keyword. -/
theorem optional_sectionWords {α : Type} {read : List (List Char) → List α × List (List Char)}
    {keywords more : List (List Char)} {xs : List α} (hrest : StartsIn keywords rest) (hk : k ∉ keywords)
    (hnil : body = [] → xs = []) (hread : body ≠ [] → read (body ++ rest) = (xs, rest)) :
    optional (k :: more) read (sectionWords (k :: more) body ++ rest) = (xs, rest) := by
  rw [optional, sectionWords]
  by_cases hbody : body = []
  · rw [if_pos hbody, List.nil_append, if_neg, hnil hbody]
    intro hstarts
    cases rest with
    | nil => cases hstarts
    | cons v rest =>
      rw [List.isPrefixOf_cons_cons, Bool.and_eq_true, beq_iff_eq] at hstarts
      exact hk (hstarts.1 ▸ hrest v (by simp))
  · rw [if_neg hbody, List.append_assoc, if_pos, List.drop_left, hread hbody]
    rw [List.isPrefixOf_iff_prefix]
    exact List.prefix_append _ _

end EntityQuery.RawText
