import Provenance.Configuration
import Provenance.Configuration.DirectoryList
import Provenance.Proofs.Text.Blank

/-!
# What a directory list says

A directory list is read from one end to the other, with one look ahead behind each backslash.
Here it is said without a reader which entries it has.  A comma *separates* entries unless a
backslash stands right in front of it, and a backslash is *removed* if a comma stands right behind
it (`entriesAt`); nothing else in the text decides about either, however many backslashes follow
each other.

Writing entries with their commas escaped and reading them again gives them back, with one
exception: a backslash at the end of an entry escapes the comma that is put behind it, and so
joins the entry to the next one (`length_entries_joined`).
-/

namespace Provenance.DirectoryList

open Text

/-! ## Reading -/

lemma extendFirst_eq_modifyHead {es : List (List Char)} (h : es ≠ []) (c : Char) :
    extendFirst c es = es.modifyHead (c :: ·) := by
  cases es with
  | nil => exact absurd rfl h
  | cons e es => rfl

lemma extendFirst_ne_nil (c : Char) (es : List (List Char)) : extendFirst c es ≠ [] := by
  cases es <;> simp [extendFirst]

lemma entries_ne_nil (cs : List Char) : entries cs ≠ [] := by
  induction cs using entries.induct with
  | case1 => simp [entries]
  | case2 cs _ => exact extendFirst_ne_nil _ _
  | case3 cs h _ => simp [entries]
  | case4 c cs h hc _ =>
      rw [entries.eq_3 c cs h, if_neg hc]
      exact extendFirst_ne_nil _ _

lemma entries_escaped (cs : List Char) :
    entries ('\\' :: ',' :: cs) = (entries cs).modifyHead (',' :: ·) :=
  extendFirst_eq_modifyHead (entries_ne_nil cs) ','

lemma entries_comma (cs : List Char) : entries (',' :: cs) = [] :: entries cs := by
  rw [entries.eq_3 ',' cs (by simp), if_pos rfl]

lemma entries_cons {c : Char} {cs : List Char} (hc : c ≠ ',')
    (h : c = '\\' → cs.head? ≠ some ',') :
    entries (c :: cs) = (entries cs).modifyHead (c :: ·) := by
  have hplain : ∀ ds, c = '\\' → cs = ',' :: ds → False := by
    rintro ds hslash rfl
    exact h hslash rfl
  rw [entries.eq_3 c cs hplain, if_neg hc, extendFirst_eq_modifyHead (entries_ne_nil cs)]

/-! ## Entries by position -/

/-- The comma at a position separates entries: no backslash stands right in front of it. -/
def Separates (cs : List Char) (i : ℕ) : Prop :=
  cs[i]? = some ',' ∧ (cs.take i).getLast? ≠ some '\\'

/-- The backslash at a position is removed: a comma stands right behind it. -/
def Escapes (cs : List Char) (i : ℕ) : Prop :=
  cs[i]? = some '\\' ∧ cs[i + 1]? = some ','

instance (cs : List Char) (i : ℕ) : Decidable (Separates cs i) :=
  inferInstanceAs (Decidable (_ ∧ _))

instance (cs : List Char) (i : ℕ) : Decidable (Escapes cs i) :=
  inferInstanceAs (Decidable (_ ∧ _))

/-- The characters at several positions, those left out that are removed. -/
def readAt (cs : List Char) (places : List ℕ) : List Char :=
  (places.filter fun i => ¬Escapes cs i).filterMap (cs[·]?)

/-- The entries of the `n` characters from position `i` on. -/
def entriesFrom (cs : List Char) (i n : ℕ) : List (List Char) :=
  ((List.range' i n).splitOnP fun i => Separates cs i).map (readAt cs)

/-- The entries of a text: what stands between the commas that separate, without the backslashes
that are removed. -/
def entriesAt (cs : List Char) : List (List Char) :=
  ((List.range cs.length).splitOnP fun i => Separates cs i).map (readAt cs)

lemma map_modifyHead {α β : Type} {f : α → β} {g : α → α} {k : β → β} (h : ∀ a, f (g a) = k (f a))
    (as : List α) : (as.modifyHead g).map f = (as.map f).modifyHead k := by
  cases as with
  | nil => rfl
  | cons a as => simp [h]

lemma entriesFrom_of_separates {cs : List Char} {i : ℕ} (h : Separates cs i) (n : ℕ) :
    entriesFrom cs i (n + 1) = [] :: entriesFrom cs (i + 1) n := by
  simp [entriesFrom, List.range'_succ, List.splitOnP_cons_eq_if_modifyHead, h, readAt]

lemma entriesFrom_of_not_separates {cs : List Char} {i : ℕ} (h : ¬Separates cs i) (n : ℕ) :
    entriesFrom cs i (n + 1) =
      (entriesFrom cs (i + 1) n).modifyHead fun entry => readAt cs [i] ++ entry := by
  have hread : ∀ places, readAt cs (i :: places) = readAt cs [i] ++ readAt cs places := by
    intro places
    rw [← List.singleton_append, readAt, List.filter_append, List.filterMap_append]
    rfl
  rw [entriesFrom, List.range'_succ, List.splitOnP_cons_eq_if_modifyHead, if_neg (by simpa using h)]
  exact map_modifyHead hread _

section Position

variable {text front back : List Char} {c : Char}

lemma separates_iff (h : text = front ++ c :: back) :
    Separates text front.length ↔ c = ',' ∧ front.getLast? ≠ some '\\' := by
  simp [h, Separates]

lemma readAt_length (h : text = front ++ c :: back) :
    readAt text [front.length] = if c = '\\' ∧ back.head? = some ',' then [] else [c] := by
  have hescapes : Escapes text front.length ↔ c = '\\' ∧ back.head? = some ',' := by
    simp [h, Escapes, List.getElem?_append_right, List.head?_eq_getElem?]
  have hchar : text[front.length]? = some c := by simp [h]
  by_cases hc : c = '\\' ∧ back.head? = some ','
  · simp [readAt, hescapes.2 hc, hc]
  · simp [readAt, mt hescapes.1 hc, hchar, hc]

end Position

/-- **A reader that looks ahead finds the entries by position.**  This holds from any point of the
text on; a comma that comes next may be escaped by what has been read. -/
lemma entriesFrom_eq {text : List Char} (front back : List Char) (h : text = front ++ back) :
    entriesFrom text front.length back.length =
      if front.getLast? = some '\\' ∧ back.head? = some ',' then
        (entries back.tail).modifyHead (',' :: ·)
      else entries back := by
  induction back generalizing front with
  | nil => simp [entriesFrom, readAt, entries]
  | cons c back ih =>
      have hnext : entriesFrom text (front.length + 1) back.length =
          if c = '\\' ∧ back.head? = some ',' then (entries back.tail).modifyHead (',' :: ·)
          else entries back := by
        simpa using ih (front ++ [c]) (by simpa using h)
      rw [List.length_cons, List.head?_cons, List.tail_cons]
      by_cases hseparates : Separates text front.length
      · obtain ⟨rfl, hplain⟩ := (separates_iff h).1 hseparates
        rw [entriesFrom_of_separates hseparates, hnext, if_neg (by simp),
          if_neg fun hescaped => hplain hescaped.1, entries_comma]
      rw [entriesFrom_of_not_separates hseparates, hnext, readAt_length h]
      by_cases hescapes : c = '\\' ∧ back.head? = some ','
      · obtain ⟨rfl, hcomma⟩ := hescapes
        obtain ⟨rest, rfl⟩ := List.head?_eq_some_iff.1 hcomma
        rw [if_pos ⟨rfl, rfl⟩, if_pos ⟨rfl, rfl⟩, if_neg (by simp), entries_escaped,
          List.modifyHead_modifyHead]
        rfl
      rw [if_neg hescapes, if_neg hescapes]
      by_cases hc : c = ','
      · have hslash : front.getLast? = some '\\' := by
          by_contra hplain
          exact hseparates ((separates_iff h).2 ⟨hc, hplain⟩)
        rw [if_pos ⟨hslash, by rw [hc]⟩, hc]
        rfl
      · rw [if_neg (by simp [hc]), entries_cons hc fun hslash hcomma => hescapes ⟨hslash, hcomma⟩]
        rfl

lemma entries_eq_entriesAt (cs : List Char) : entries cs = entriesAt cs := by
  have hall := entriesFrom_eq [] cs rfl
  rw [if_neg (by simp)] at hall
  rw [← hall, entriesAt, List.range_eq_range']
  rfl

/-! ## Writing -/

lemma escape_append (cs ds : List Char) : escape (cs ++ ds) = escape cs ++ escape ds := by
  induction cs with
  | nil => rfl
  | cons c cs ih =>
      by_cases hc : c = ','
      · simp [escape, hc, ih]
      · simp [escape, hc, ih]

lemma escape_of_notMem {cs : List Char} (h : ',' ∉ cs) : escape cs = cs := by
  induction cs with
  | nil => rfl
  | cons c cs ih =>
      have hc : c ≠ ',' := fun hcomma => h (hcomma ▸ List.mem_cons_self)
      have hcs : ',' ∉ cs := fun hmem => h (List.mem_cons_of_mem c hmem)
      rw [escape, if_neg hc, ih hcs]

/-- Escaped text does not begin with a comma. -/
lemma head?_escape_append {cs : List Char} (h : cs ≠ []) (rest : List Char) :
    (escape cs ++ rest).head? ≠ some ',' := by
  cases cs with
  | nil => exact absurd rfl h
  | cons c cs =>
      by_cases hc : c = ','
      · simp [escape, hc]
      · simp [escape, hc]

/-- **An escaped text is read as the text**, in front of anything but a comma that its last
backslash would escape. -/
lemma entries_escape_append (cs : List Char) {rest : List Char}
    (h : cs.getLast? = some '\\' → rest.head? ≠ some ',') :
    entries (escape cs ++ rest) = (entries rest).modifyHead (cs ++ ·) := by
  induction cs with
  | nil =>
      rw [escape, List.nil_append]
      cases entries rest <;> rfl
  | cons c cs ih =>
      have hrest : cs.getLast? = some '\\' → rest.head? ≠ some ',' := by
        intro hlast
        apply h
        rw [List.getLast?_cons, hlast]
        rfl
      have hread : entries (escape cs ++ rest) = (entries rest).modifyHead (cs ++ ·) := ih hrest
      by_cases hc : c = ','
      · rw [hc, escape, if_pos rfl, List.cons_append, List.cons_append, entries_escaped, hread,
          List.modifyHead_modifyHead]
        rfl
      · have hplain : c = '\\' → (escape cs ++ rest).head? ≠ some ',' := by
          rintro rfl
          by_cases hcs : cs = []
          · rw [hcs]
            exact h (by rw [hcs]; rfl)
          · exact head?_escape_append hcs rest
        rw [escape, if_neg hc, List.cons_append, entries_cons hc hplain, hread,
          List.modifyHead_modifyHead]
        rfl

/-- The text of several entries. -/
def joined (entries : List (List Char)) : List Char :=
  [','].intercalate (entries.map escape)

/-- Whether an entry ends in a backslash. -/
def EndsInBackslash (entry : List Char) : Prop :=
  entry.getLast? = some '\\'

instance (entry : List Char) : Decidable (EndsInBackslash entry) :=
  inferInstanceAs (Decidable (_ = _))

lemma joined_cons_cons (d e : List Char) (es : List (List Char)) :
    joined (d :: e :: es) = escape d ++ ',' :: joined (e :: es) := by
  simp [joined, List.intercalate_cons_cons]

lemma entries_joined_of_not_endsInBackslash {d : List Char} (h : ¬EndsInBackslash d)
    (e : List Char) (es : List (List Char)) :
    entries (joined (d :: e :: es)) = d :: entries (joined (e :: es)) := by
  rw [joined_cons_cons, entries_escape_append d fun hlast => absurd hlast h, entries_comma]
  simp

/-- A backslash at the end of an entry escapes the comma behind it. -/
lemma exists_entries_joined_of_endsInBackslash {d : List Char} (h : EndsInBackslash d)
    (e : List Char) (es : List (List Char)) :
    ∃ front, entries (joined (d :: e :: es)) =
      (entries (joined (e :: es))).modifyHead (front ++ ',' :: ·) := by
  obtain ⟨front, rfl⟩ := List.getLast?_eq_some_iff.1 h
  refine ⟨front, ?_⟩
  have hslash : escape ['\\'] = ['\\'] := rfl
  rw [joined_cons_cons, escape_append, hslash, List.append_assoc, List.singleton_append,
    entries_escape_append front fun _ => by simp, entries_escaped, List.modifyHead_modifyHead]
  rfl

lemma entries_joined_singleton (d : List Char) : entries (joined [d]) = [d] := by
  have hread : entries (escape d ++ []) = (entries []).modifyHead (d ++ ·) :=
    entries_escape_append d fun _ => by simp
  simpa [joined, entries] using hread

/-- **Each backslash at the end of an entry joins it to the next one**, and nothing else does. -/
lemma length_entries_joined (d : List Char) (ds : List (List Char)) :
    (entries (joined (d :: ds))).length + (d :: ds).dropLast.countP (EndsInBackslash ·) =
      ds.length + 1 := by
  induction ds generalizing d with
  | nil =>
      rw [entries_joined_singleton]
      rfl
  | cons e es ih =>
      have hrest := ih e
      rw [List.dropLast_cons_of_ne_nil (List.cons_ne_nil e es), List.countP_cons, List.length_cons]
      by_cases hd : EndsInBackslash d
      · obtain ⟨front, hentries⟩ := exists_entries_joined_of_endsInBackslash hd e es
        rw [hentries, List.length_modifyHead, if_pos (by simpa using hd)]
        omega
      · rw [entries_joined_of_not_endsInBackslash hd, List.length_cons, if_neg (by simpa using hd)]
        omega

lemma entries_joined (d : List Char) (ds : List (List Char))
    (h : ∀ e ∈ (d :: ds).dropLast, ¬EndsInBackslash e) : entries (joined (d :: ds)) = d :: ds := by
  induction ds generalizing d with
  | nil => exact entries_joined_singleton d
  | cons e es ih =>
      rw [List.dropLast_cons_of_ne_nil (List.cons_ne_nil e es)] at h
      obtain ⟨hd, hes⟩ := List.forall_mem_cons.1 h
      rw [entries_joined_of_not_endsInBackslash hd, ih e hes]

/-! ## Blanks -/

/-- The entries of a text as a list of directories gives them: trimmed, and those with nothing left
skipped. -/
def cleaned (entries : List (List Char)) : List String :=
  ((entries.map trimChars).filter (!·.isEmpty)).map String.ofList

lemma split_eq (value : String) : split value = cleaned (entries value.toList) := rfl

lemma cleaned_eq_self {ds : List String}
    (h : ∀ d ∈ ds, d ≠ "" ∧ IsTrimmed d.toList) : cleaned (ds.map String.toList) = ds := by
  have htrim : (ds.map String.toList).map trimChars = ds.map String.toList := by
    rw [List.map_map]
    exact List.map_congr_left fun d hd => (h d hd).2.trimChars_eq
  have hkeep : ∀ cs ∈ ds.map String.toList, (!cs.isEmpty) = true := by
    intro cs hcs
    obtain ⟨d, hd, rfl⟩ := List.mem_map.1 hcs
    simpa using (h d hd).1
  rw [cleaned, htrim, List.filter_eq_self.2 hkeep, List.map_map]
  simp [Function.comp_def]

lemma length_cleaned_le (entries : List (List Char)) :
    (cleaned entries).length ≤ entries.length := by
  have hfilter := List.length_filter_le (!·.isEmpty) (entries.map trimChars)
  simpa [cleaned] using hfilter

lemma comma_notMem_of_blanks {blanks : List Char} (h : ∀ c ∈ blanks, isBlank c = true) :
    ',' ∉ blanks := by
  intro hmem
  have hcomma : isBlank ',' = true := h ',' hmem
  exact absurd hcomma (by decide)

lemma getLast?_of_blanks {blanks : List Char} (h : ∀ c ∈ blanks, isBlank c = true) :
    blanks.getLast? ≠ some '\\' := by
  intro hlast
  have hslash : isBlank '\\' = true := h '\\' (List.mem_of_getLast? hlast)
  exact absurd hslash (by decide)

/-- Blanks in front of a list belong to its first entry. -/
lemma entries_blanks_append {blanks : List Char} (h : ∀ c ∈ blanks, isBlank c = true)
    (cs : List Char) : entries (blanks ++ cs) = (entries cs).modifyHead (blanks ++ ·) := by
  have hread : entries (escape blanks ++ cs) = (entries cs).modifyHead (blanks ++ ·) :=
    entries_escape_append blanks fun hlast => absurd hlast (getLast?_of_blanks h)
  rwa [escape_of_notMem (comma_notMem_of_blanks h)] at hread

/-- The entries are those of another text, with blanks behind some of them. -/
def Padded : List (List Char) → List (List Char) → Prop :=
  List.Forall₂ fun padded entry =>
    ∃ blanks : List Char, (∀ c ∈ blanks, isBlank c = true) ∧ padded = entry ++ blanks

lemma Padded.modifyHead {es fs : List (List Char)} (h : Padded es fs) (c : Char) :
    Padded (es.modifyHead (c :: ·)) (fs.modifyHead (c :: ·)) := by
  cases h with
  | nil => exact .nil
  | cons hhead htail =>
      obtain ⟨blanks, hblanks, rfl⟩ := hhead
      exact .cons ⟨blanks, hblanks, rfl⟩ htail

lemma Padded.map_trimChars {es fs : List (List Char)} (h : Padded es fs) :
    es.map trimChars = fs.map trimChars := by
  induction h with
  | nil => rfl
  | cons hhead _ ih =>
      obtain ⟨blanks, hblanks, rfl⟩ := hhead
      have hnone : ∀ c ∈ ([] : List Char), isBlank c = true := by simp
      have htrim := trimChars_append_blanks hnone hblanks
      simp only [List.nil_append] at htrim
      rw [List.map_cons, List.map_cons, htrim, ih]

/-- Blanks behind a list belong to its last entry. -/
lemma padded_entries_append {blanks : List Char} (h : ∀ c ∈ blanks, isBlank c = true)
    (cs : List Char) : Padded (entries (cs ++ blanks)) (entries cs) := by
  induction cs using entries.induct with
  | case1 =>
      have hall : entries (blanks ++ []) = [blanks ++ []] := entries_blanks_append h []
      rw [List.append_nil] at hall
      rw [List.nil_append, hall]
      exact .cons ⟨blanks, h, rfl⟩ .nil
  | case2 cs ih =>
      rw [List.cons_append, List.cons_append, entries_escaped, entries_escaped]
      exact ih.modifyHead ','
  | case3 cs _ ih =>
      rw [List.cons_append, entries_comma, entries_comma]
      exact .cons ⟨[], by simp, rfl⟩ ih
  | case4 c cs hplain hc ih =>
      have hfirst : c = '\\' → cs.head? ≠ some ',' := by
        intro hslash hcomma
        obtain ⟨rest, rfl⟩ := List.head?_eq_some_iff.1 hcomma
        exact hplain rest hslash rfl
      have hlonger : c = '\\' → (cs ++ blanks).head? ≠ some ',' := by
        intro hslash
        cases cs with
        | nil => exact fun hcomma => comma_notMem_of_blanks h (List.mem_of_mem_head? hcomma)
        | cons d cs => exact hfirst hslash
      rw [List.cons_append, entries_cons hc hlonger, entries_cons hc hfirst]
      exact ih.modifyHead c

/-- **Blanks around the whole list do not count.** -/
lemma cleaned_entries_append {front back : List Char} (hfront : ∀ c ∈ front, isBlank c = true)
    (hback : ∀ c ∈ back, isBlank c = true) (cs : List Char) :
    cleaned (entries (front ++ cs ++ back)) = cleaned (entries cs) := by
  have hhead : ∀ es : List (List Char),
      (es.modifyHead (front ++ ·)).map trimChars = es.map trimChars := by
    intro es
    cases es with
    | nil => rfl
    | cons entry es =>
        have hnone : ∀ c ∈ ([] : List Char), isBlank c = true := by simp
        have htrim := trimChars_append_blanks hfront hnone entry
        simpa using htrim
  rw [List.append_assoc, entries_blanks_append hfront, cleaned, hhead,
    (padded_entries_append hback cs).map_trimChars]
  rfl

lemma split_trim (value : String) : split (trim value) = split value := by
  obtain ⟨front, back, hfront, hback, hvalue⟩ := exists_blanks_around value.toList
  rw [split_eq, split_eq, trim, String.toList_ofList]
  conv_rhs => rw [hvalue]
  exact (cleaned_entries_append hfront hback _).symm

/-! ## Lists of directories -/

lemma split_join_iff {ds : List String} (h : ∀ d ∈ ds, d ≠ "" ∧ IsTrimmed d.toList) :
    split (join ds) = ds ↔ ∀ d ∈ ds.dropLast, ¬EndsInBackslash d.toList := by
  have hsplit : split (join ds) = cleaned (entries (joined (ds.map String.toList))) := by
    rw [split_eq, join, String.toList_ofList, joined, List.map_map]
    rfl
  rw [hsplit]
  cases ds with
  | nil => decide
  | cons d ds =>
      rw [List.map_cons]
      constructor
      · intro hsame
        have hle := length_cleaned_le (entries (joined (d.toList :: ds.map String.toList)))
        have hlength := length_entries_joined d.toList (ds.map String.toList)
        rw [hsame, List.length_cons] at hle
        rw [List.length_map] at hlength
        have hnone :
            (d.toList :: ds.map String.toList).dropLast.countP (EndsInBackslash ·) = 0 := by
          omega
        intro e he hends
        have hmem : e.toList ∈ (d.toList :: ds.map String.toList).dropLast := by
          rw [← List.map_cons, ← List.map_dropLast]
          exact List.mem_map_of_mem he
        exact List.countP_eq_zero.1 hnone _ hmem (by simpa using hends)
      · intro hplain
        rw [entries_joined, ← List.map_cons, cleaned_eq_self h]
        intro cs hcs
        rw [← List.map_cons, ← List.map_dropLast] at hcs
        obtain ⟨e, he, rfl⟩ := List.mem_map.1 hcs
        exact hplain e he

/-- A value lists the same directories with the blanks around it and without them. -/
lemma split_get? (c : Configuration) (key : String) :
    ((c.get? key).map split).getD [] = ((c.properties.get? key).map split).getD [] := by
  unfold Configuration.get?
  cases hvalue : c.properties.get? key with
  | none => rfl
  | some value =>
      simp only [Option.bind_some, Option.map_some, Option.getD_some]
      by_cases hblank : (trim value).isEmpty
      · have hempty : trim value = "" := String.isEmpty_iff.1 hblank
        rw [if_pos hblank, ← split_trim value, hempty]
        rfl
      · rw [if_neg hblank, Option.map_some, Option.getD_some, split_trim]

/-- **Directory lists decode what escaping encodes.**  Directories that are written with their
commas escaped and with commas between them are read again if and only if no directory but the last ends
in a backslash.  Any text at all lists what stands between the commas that have no backslash in
front of them, less the backslashes that have a comma behind them: each entry without the blanks
around it, and only if something is left of it.  Blanks around the whole text do not count, so it
is the same whether a look-up has trimmed it before. -/
theorem split_decodes :
    (∀ ds : List String, (∀ d ∈ ds, d ≠ "" ∧ IsTrimmed d.toList) →
      (split (join ds) = ds ↔ ∀ d ∈ ds.dropLast, ¬EndsInBackslash d.toList)) ∧
    (∀ value : String, split value =
      (((entriesAt value.toList).map trimChars).filter (!·.isEmpty)).map String.ofList) ∧
    (∀ value : String, split (trim value) = split value) ∧
    ∀ (c : Configuration) (key : String),
      ((c.get? key).map split).getD [] = ((c.properties.get? key).map split).getD [] := by
  refine ⟨fun ds h => split_join_iff h, ?_, split_trim, split_get?⟩
  intro value
  rw [← entries_eq_entriesAt]
  rfl

theorem split_decodes_backslashes :
    (∀ d ∈ ["/a,b\\,c", "/d\\"], d ≠ "" ∧ IsTrimmed d.toList) ∧
      split (join ["/a,b\\,c", "/d\\"]) = ["/a,b\\,c", "/d\\"] ∧
      (∀ d ∈ ["/d\\", "/a"], d ≠ "" ∧ IsTrimmed d.toList) ∧
      split (join ["/d\\", "/a"]) ≠ ["/d\\", "/a"] := by
  have hkept : ∀ d ∈ ["/a,b\\,c", "/d\\"], d ≠ "" ∧ IsTrimmed d.toList := by decide
  have hjoined : ∀ d ∈ ["/d\\", "/a"], d ≠ "" ∧ IsTrimmed d.toList := by decide
  refine ⟨hkept, (split_decodes.1 _ hkept).2 (by decide), hjoined, fun hsame => ?_⟩
  have hplain := (split_decodes.1 _ hjoined).1 hsame
  exact hplain "/d\\" (by decide) (by decide)

end Provenance.DirectoryList
