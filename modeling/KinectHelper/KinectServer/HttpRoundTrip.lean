import KinectHelper.KinectServer.HttpHeader

namespace KinectHelper.HttpHeader

/-- The headers after a sequence of calls of `SetHeader`. -/
def built (sets : List (Text × Text)) : Headers :=
  sets.foldl (fun headers s => setHeader headers s.1 s.2) .empty

/-- Without whitespace. -/
def NoSpace (s : Text) : Prop := ∀ c ∈ s, isSpace c = false

instance (s : Text) : Decidable (NoSpace s) :=
  List.decidableBAll (fun c => isSpace c = false) s

/-- A name and a value, as they are given to `SetHeader`, without whitespace at their ends or line
ends; the name has no `": "` and in no letter case begins like a request, and a target has no
whitespace. -/
structure WellFormed (s : Text × Text) : Prop where
  name : Tight isSpace s.1 ∧ OneLine s.1
  value : Tight isSpace s.2 ∧ OneLine s.2
  noColon : findSub [':', ' '] s.1 = none
  noRequest : ¬ getName ++ [' '] <+: lower s.1 ∧ ¬ connectName ++ [' '] <+: lower s.1
  target : lower s.1 = getName → s.2 ≠ [] ∧ NoSpace s.2

instance (s : Text × Text) : Decidable (WellFormed s) :=
  decidable_of_iff ((Tight isSpace s.1 ∧ OneLine s.1) ∧ (Tight isSpace s.2 ∧ OneLine s.2) ∧
    findSub [':', ' '] s.1 = none ∧
    (¬ getName ++ [' '] <+: lower s.1 ∧ ¬ connectName ++ [' '] <+: lower s.1) ∧
    (lower s.1 = getName → s.2 ≠ [] ∧ NoSpace s.2))
    ⟨fun h => ⟨h.1, h.2.1, h.2.2.1, h.2.2.2.1, h.2.2.2.2⟩,
      fun h => ⟨h.name, h.value, h.noColon, h.noRequest, h.target⟩⟩

/-- The calls whose value no later call for the same name, in any letter case, replaces. -/
def lasting : List (Text × Text) → List (Text × Text)
  | [] => []
  | s::sets =>
      if ∃ s' ∈ sets, lower s'.1 = lower s.1 then lasting sets else s :: lasting sets

theorem mem_lasting {sets : List (Text × Text)} {name v : Text}
    (h : SortedMap.latest name (sets.map fun s => (lower s.1, s.2)) = some v) :
    ∃ s ∈ lasting sets, lower s.1 = name ∧ s.2 = v := by
  induction sets with
  | nil => cases h
  | cons s sets ih =>
    rw [List.map_cons, SortedMap.latest, Option.or_eq_some_iff] at h
    rw [lasting]
    rcases h with hlater | ⟨hnone, hhere⟩
    · obtain ⟨s', hs', hname⟩ := ih hlater
      split_ifs with hreplaced
      · exact ⟨s', hs', hname⟩
      · exact ⟨s', List.mem_cons_of_mem s hs', hname⟩
    · obtain ⟨hname, hvalue⟩ := Option.ite_none_right_eq_some.mp hhere
      have hkept : ¬ ∃ s' ∈ sets, lower s'.1 = lower s.1 := by
        intro hreplaced
        obtain ⟨s', hs', hsame⟩ := hreplaced
        have hnot := SortedMap.latest_eq_none.mp hnone _ (List.mem_map_of_mem hs')
        exact hnot (hsame.trans hname)
      rw [if_neg hkept]
      exact ⟨s, List.mem_cons_self, hname, Option.some.inj hvalue⟩

/-- The map holds the lasting calls, under their names in lower case. -/
theorem mem_built {sets : List (Text × Text)} {e : Text × Text} (he : e ∈ (built sets).entries) :
    ∃ s ∈ lasting sets, e = (lower s.1, s.2) := by
  have hall : built sets =
      SortedMap.empty.insertAll (sets.map fun s => (lower s.1, s.2)) := by
    rw [SortedMap.insertAll, List.foldl_map]
    rfl
  rw [hall] at he
  have hfind := (SortedMap.find_eq_some_iff _ e.1 e.2).mpr he
  rw [SortedMap.find_insertAll, SortedMap.find_empty, Option.or_none] at hfind
  obtain ⟨s, hs, hname, hvalue⟩ := mem_lasting hfind
  exact ⟨s, hs, Prod.ext hname.symm hvalue.symm⟩

theorem built_lowerCase (sets : List (Text × Text)) :
    ∀ e ∈ (built sets).entries, lower e.1 = e.1 := by
  intro e he
  obtain ⟨s, _, heq⟩ := mem_built he
  rw [heq]
  exact lower_lower s.1

/-- The conditions do not depend on the letter case of the name. -/
theorem WellFormed.lowerName {s : Text × Text} (h : WellFormed s) :
    WellFormed (lower s.1, s.2) where
  name := ⟨tight_lower h.name.1, h.name.2.toLower⟩
  value := h.value
  noColon := (findSub_lower s.1).trans h.noColon
  noRequest := by
    rw [lower_lower]
    exact h.noRequest
  target := by
    rw [lower_lower]
    exact h.target

theorem built_wellFormed {sets : List (Text × Text)} (h : ∀ s ∈ lasting sets, WellFormed s) :
    ∀ e ∈ (built sets).entries, WellFormed e := by
  intro e he
  obtain ⟨s, hs, heq⟩ := mem_built he
  rw [heq]
  exact (h s hs).lowerName

theorem WellFormed.reread_eq {e : Text × Text} (h : WellFormed e) :
    reread e = if e.2 = [] then none else some e := by
  rw [reread, h.value.1.trimBoth_eq]

section WellFormed

variable {headers : Headers} (hlower : ∀ e ∈ headers.entries, lower e.1 = e.1)
  (hwell : ∀ e ∈ headers.entries, WellFormed e)
include hlower hwell

theorem printable_of_wellFormed : Printable headers := by
  intro e he
  have h := hwell e he
  have hcase := hlower e he
  have hrequest := h.noRequest
  rw [hcase] at hrequest
  exact ⟨⟨hcase, h.name.1, h.noColon, hrequest.1, hrequest.2, h.name.2⟩, h.value.2⟩

omit hlower in
/-- Of the fields, those with a value are read back. -/
theorem mem_reread {name v : Text} (hname : name ≠ getName) :
    (name, v) ∈ (fields headers).filterMap reread ↔ headers.find name = some v ∧ v ≠ [] := by
  rw [List.mem_filterMap, SortedMap.find_eq_some_iff]
  constructor
  · intro ⟨e, he, hread⟩
    have hentry := (mem_fields.mp he).1
    rw [(hwell e hentry).reread_eq] at hread
    obtain ⟨hne, heq⟩ := Option.ite_none_left_eq_some.mp hread
    rw [Option.some.inj heq] at hentry hne
    exact ⟨hentry, hne⟩
  · intro ⟨hentry, hne⟩
    refine ⟨_, mem_fields.mpr ⟨hentry, hname⟩, ?_⟩
    rw [(hwell _ hentry).reread_eq, if_neg hne]

theorem getHeader_reparse {name : Text} (hname : lower name ≠ getName) :
    getHeader (parseBuffer (getBuffer headers)) name = getHeader headers name := by
  have hfind := (printable_of_wellFormed hlower hwell).find_reparse (lower name)
  have hnew : (parseBuffer (getBuffer headers)).find (lower name) =
      (headers.find (lower name)).filter fun v => v ≠ [] := by
    apply Option.ext
    intro v
    rw [hfind, mem_reread hwell hname, Option.filter_eq_some_iff]
    simp [hname]
  rw [getHeader, getHeader, hnew]
  cases headers.find (lower name) with
  | none => rfl
  | some v =>
    by_cases hv : v = []
    · rw [hv]
      rfl
    · rw [Option.filter_some_pos (by simpa using hv)]

theorem getHeader_reparse_target {name : Text} (hname : lower name = getName) :
    getHeader (parseBuffer (getBuffer headers)) name = (headers.find getName).getD ['/'] := by
  have hreparse := (printable_of_wellFormed hlower hwell).getHeader_get_reparse
  have hsame : getHeader (parseBuffer (getBuffer headers)) name =
      getHeader (parseBuffer (getBuffer headers)) ['G', 'E', 'T'] := by
    rw [getHeader, getHeader, hname, lower_get]
  rw [hsame, hreparse, getHeader, lower_get]
  cases hold : headers.find getName with
  | none => rfl
  | some v =>
    obtain ⟨hne, hspace⟩ := (hwell _ ((headers.find_eq_some_iff _ _).mp hold)).target rfl
    rw [Option.getD_some, Option.getD_some, rereadTarget, if_neg hne, List.takeWhile_eq_self_iff]
    intro c hc
    have hnot := hspace c hc
    have hne : c ≠ ' ' := by
      intro heq
      rw [heq] at hnot
      cases hnot
    simpa using hne

end WellFormed

/-- Parsing undoes printing when the calls of `SetHeader` that last are well-formed, but for a
target that was not set. -/
theorem parse_undoes_print (sets : List (Text × Text))
    (hwell : ∀ s ∈ lasting sets, WellFormed s) :
    (∀ name, lower name ≠ getName →
      getHeader (parseBuffer (getBuffer (built sets))) name = getHeader (built sets) name) ∧
    (∀ name, lower name = getName →
      getHeader (parseBuffer (getBuffer (built sets))) name =
        ((built sets).find getName).getD ['/']) := by
  have hentries := built_wellFormed hwell
  constructor
  · intro name hname
    exact getHeader_reparse (built_lowerCase sets) hentries hname
  · intro name hname
    exact getHeader_reparse_target (built_lowerCase sets) hentries hname

/-- A value with a line end that is replaced, a value that contains `": "`, a name that ends in a
colon, a target and an empty value. -/
def sampleSets : List (Text × Text) :=
  [(['a', ':'], ['\n']), (['A', ':'], ['x', ':', ' ', 'y']), (['G', 'e', 't'], ['/', 'f']),
    (['B'], [])]

theorem sampleSets_undone :
    getHeader (parseBuffer (getBuffer (built sampleSets))) ['a', ':'] = ['x', ':', ' ', 'y'] ∧
      getHeader (parseBuffer (getBuffer (built sampleSets))) ['b'] = [] ∧
      getHeader (parseBuffer (getBuffer (built sampleSets))) ['G', 'E', 'T'] = ['/', 'f'] := by
  obtain ⟨hfield, htarget⟩ := parse_undoes_print sampleSets (by decide)
  exact ⟨(hfield _ (by decide)).trans (by decide), (hfield _ (by decide)).trans (by decide),
    (htarget _ (by decide)).trans (by decide)⟩

end KinectHelper.HttpHeader
