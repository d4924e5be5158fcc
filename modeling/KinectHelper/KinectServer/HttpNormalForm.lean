import KinectHelper.KinectServer.HttpHeader

namespace KinectHelper.HttpHeader

/-- The buffer of the header that is constructed from a text. -/
def print (t : Text) : Text := getBuffer (parseBuffer t)

section Lines

theorem OneLine.mono {s s' : Text} (h : OneLine s) (hsub : s' ⊆ s) : OneLine s' :=
  fun c hc => h c (hsub hc)

theorem trimBoth_subset (line : Text) : trimBoth isSpace line ⊆ line := by
  intro c hc
  apply (List.rdropWhile_prefix isSpace line).subset
  exact (List.dropWhile_suffix isSpace).subset hc

/-- A line is a request, a CONNECT or a field, in this order. -/
theorem readLine_cases {line : Text} {e : Text × Text} (h : readLine line = some e) :
    (isGetLine (trimBoth isSpace line) = true ∧
      e = (getName, midToSpace ((trimBoth isSpace line).drop 4))) ∨
    (isGetLine (trimBoth isSpace line) = false ∧ isConnectLine (trimBoth isSpace line) = true ∧
      e = (connectName, midToSpace ((trimBoth isSpace line).drop 8))) ∨
    (isGetLine (trimBoth isSpace line) = false ∧ isConnectLine (trimBoth isSpace line) = false ∧
      readField (trimBoth isSpace line) = some e) := by
  unfold readLine at h
  simp only at h
  generalize trimBoth isSpace line = trimmed at h ⊢
  obtain ⟨_, h⟩ := Option.ite_none_left_eq_some.mp h
  cases hget : isGetLine trimmed with
  | true =>
    rw [hget, if_pos rfl] at h
    exact Or.inl ⟨rfl, (Option.some.inj h).symm⟩
  | false =>
    rw [hget, if_neg Bool.false_ne_true] at h
    cases hconnect : isConnectLine trimmed with
    | true =>
      rw [hconnect, if_pos rfl] at h
      exact Or.inr (Or.inl ⟨rfl, rfl, (Option.some.inj h).symm⟩)
    | false =>
      rw [hconnect, if_neg Bool.false_ne_true] at h
      exact Or.inr (Or.inr ⟨rfl, rfl, h⟩)

variable {line : Text} {e : Text × Text}

/-- The two parts of a field: before the first `": "`, and behind it. -/
theorem readField_some (h : readField line = some e) :
    ∃ name value, line = name ++ ':' :: ' ' :: value ∧ findSub [':', ' '] name = none ∧
      e = (lower (name.rdropWhile isSpace), value.dropWhile isSpace) := by
  obtain ⟨column, hcolumn, he⟩ := Option.map_eq_some_iff.mp h
  obtain ⟨value, hline, hnone⟩ := findSub_pair_some hcolumn
  have hlength : (line.take column).length = column := by
    have htotal := congrArg List.length hline
    rw [List.length_append, List.length_cons, List.length_cons, List.length_take] at htotal
    rw [List.length_take]
    omega
  have hvalue : line.drop (column + 2) = value := by
    rw [hline, ← List.drop_drop, List.drop_left' hlength]
    rfl
  refine ⟨line.take column, value, hline, hnone, ?_⟩
  rw [← he, hvalue]

theorem readField_value (htight : Tight isSpace line) (h : readField line = some e) :
    e.2 ≠ [] ∧ Tight isSpace e.2 := by
  obtain ⟨name, value, hline, -, rfl⟩ := readField_some h
  have hlast : ∀ c ∈ (' ' :: value).getLast?, isSpace c = false := by
    intro c hc
    apply htight.last
    rw [hline, ← List.singleton_append, ← List.append_assoc, List.getLast?_append,
      Option.mem_def.mp hc]
    rfl
  constructor
  · intro hnil
    have hall : ∀ c ∈ ' ' :: value, isSpace c = true := by
      rw [List.forall_mem_cons]
      exact ⟨rfl, List.dropWhile_eq_nil_iff.mp hnil⟩
    have hne : ' ' :: value ≠ [] := List.cons_ne_nil _ _
    have hnot := hlast _ (List.getLast?_eq_some_getLast hne)
    rw [hall _ (List.getLast_mem hne)] at hnot
    cases hnot
  · refine ⟨dropWhile_head _, ?_⟩
    intro c hc
    have hvalue : c ∈ value.getLast? := getLast?_dropWhile hc
    apply hlast
    rw [List.getLast?_cons, Option.mem_def.mp hvalue]
    rfl

theorem readField_name (htight : Tight isSpace line) (hone : OneLine line)
    (hget : isGetLine line = false) (hconnect : isConnectLine line = false)
    (h : readField line = some e) : PlainName e.1 := by
  obtain ⟨name, value, hline, hnone, rfl⟩ := readField_some h
  have hshort : name.rdropWhile isSpace <+: name := List.rdropWhile_prefix isSpace name
  have hpre : name.rdropWhile isSpace <+: line :=
    hshort.trans ⟨_, hline.symm⟩
  have hlower : lower (name.rdropWhile isSpace) <+: lower line := hpre.map Char.toLower
  constructor
  · exact lower_lower _
  · exact tight_lower ⟨fun c hc => htight.head c (mem_head?_mono hpre hc), rdropWhile_last name⟩
  · rw [findSub_lower]
    exact findSub_pair_initial hshort hnone
  · intro hrequest
    rw [(isGetLine_iff line).mpr (hrequest.trans hlower)] at hget
    cases hget
  · intro hrequest
    rw [(isConnectLine_iff line).mpr (hrequest.trans hlower)] at hconnect
    cases hconnect
  · exact (hone.mono hpre.subset).toLower

/-- Whatever a line sets can be printed on a line. -/
theorem readLine_printable (hone : OneLine line) (h : readLine line = some e) :
    PlainName e.1 ∧ OneLine e.2 := by
  have htrim : OneLine (trimBoth isSpace line) := hone.mono (trimBoth_subset line)
  have htarget (n : Nat) : OneLine (midToSpace ((trimBoth isSpace line).drop n)) := by
    apply htrim.mono
    intro c hc
    rw [midToSpace_eq] at hc
    exact List.mem_of_mem_drop ((List.takeWhile_prefix _).subset hc)
  rcases readLine_cases h with ⟨-, rfl⟩ | ⟨-, -, rfl⟩ | ⟨hget, hconnect, hfield⟩
  · exact ⟨plainName_getName, htarget 4⟩
  · exact ⟨plainName_connectName, htarget 8⟩
  · refine ⟨readField_name (tight_trimBoth line) htrim hget hconnect hfield, ?_⟩
    obtain ⟨name, value, hline, -, rfl⟩ := readField_some hfield
    apply htrim.mono
    intro c hc
    rw [hline]
    have hvalue : c ∈ value := (List.dropWhile_suffix isSpace).subset hc
    simp [hvalue]

end Lines

section Parsed

/-- The line sets the header of this name. -/
def Names (k line : Text) : Prop := ∃ v, readLine line = some (k, v)

/-- The last line of a text that sets the header of this name. -/
def LastNaming (k t line : Text) : Prop :=
  ∃ before after, tokens isDelimiter t = before ++ line::after ∧ Names k line ∧
    ∀ later ∈ after, ¬ Names k later

theorem LastNaming.names {k t line : Text} (h : LastNaming k t line) : Names k line := by
  obtain ⟨_, _, _, hnames, _⟩ := h
  exact hnames

theorem find_parseBuffer (t k v : Text) :
    (parseBuffer t).find k = some v ↔
      ∃ line, LastNaming k t line ∧ readLine line = some (k, v) := by
  have hnames (after : List Text) : (∀ later ∈ after, ∀ e ∈ readLine later, e.1 ≠ k) ↔
      ∀ later ∈ after, ¬ Names k later := by
    constructor
    · intro h later hlater ⟨w, hw⟩
      exact h later hlater (k, w) hw rfl
    · intro h later hlater e he hk
      exact h later hlater ⟨e.2, hk ▸ he⟩
  rw [parseBuffer_eq, SortedMap.find_insertAll, SortedMap.find_empty, Option.or_none,
    SortedMap.latest_filterMap_iff]
  constructor
  · intro ⟨before, line, after, hsplit, hread, hlater⟩
    exact ⟨line, ⟨before, after, hsplit, ⟨v, hread⟩, (hnames after).mp hlater⟩, hread⟩
  · intro ⟨line, ⟨before, after, hsplit, _, hlater⟩, hread⟩
    exact ⟨before, line, after, hsplit, hread, (hnames after).mpr hlater⟩

theorem mem_parseBuffer {t : Text} {e : Text × Text} :
    e ∈ (parseBuffer t).entries ↔ ∃ line, LastNaming e.1 t line ∧ readLine line = some e := by
  rw [← find_parseBuffer, SortedMap.find_eq_some_iff]

theorem printable_parseBuffer (t : Text) : Printable (parseBuffer t) := by
  intro e he
  obtain ⟨line, ⟨before, after, hsplit, -⟩, hread⟩ := mem_parseBuffer.mp he
  have hline : line ∈ tokens isDelimiter t := by
    rw [hsplit]
    simp
  exact readLine_printable (mem_tokens hline).2 hread

end Parsed

section Twice

theorem getBuffer_eq_iff {m m' : Headers} (h : Printable m) (h' : Printable m') :
    getBuffer m' = getBuffer m ↔
      requestLine (getHeader m' ['G', 'E', 'T']) = requestLine (getHeader m ['G', 'E', 'T']) ∧
        (fields m').map fieldLine = (fields m).map fieldLine := by
  constructor
  · intro heq
    have hlines := congrArg (tokens isDelimiter) heq
    rw [h.tokens_getBuffer, h'.tokens_getBuffer] at hlines
    exact List.cons.inj hlines
  · intro ⟨hrequest, hfields⟩
    have hflat (es : List (Text × Text)) :
        (es.flatMap fun e => fieldLine e ++ crlf) = (es.map fieldLine).flatMap (· ++ crlf) := by
      rw [List.flatMap_map]
    rw [getBuffer_eq, getBuffer_eq, hrequest, hflat, hflat, hfields]

theorem fields_reparse {m : Headers} (h : Printable m) :
    fields (parseBuffer (getBuffer m)) = (fields m).filterMap reread := by
  have hsorted : (fields (parseBuffer (getBuffer m))).Pairwise fun a b => a.1 < b.1 :=
    (parseBuffer (getBuffer m)).sorted.filter _
  apply SortedMap.sorted_ext hsorted (sorted_reread m)
  intro e
  rw [mem_fields, ← SortedMap.find_eq_some_iff, h.find_reparse]
  constructor
  · intro ⟨hfind, hname⟩
    rcases hfind with ⟨hget, -⟩ | hfield
    · exact absurd hget hname
    · exact hfield
  · intro hfield
    refine ⟨Or.inr hfield, ?_⟩
    obtain ⟨e', he', hread⟩ := List.mem_filterMap.mp hfield
    rw [reread_fst hread]
    exact (mem_fields.mp he').2

/-- The printed request line is read back exactly if no space cuts the target. -/
theorem requestLine_reread_iff (uri : Text) :
    requestLine (rereadTarget uri) = requestLine uri ↔ ' ' ∉ uri := by
  have hinj (a b : Text) : requestLine a = requestLine b ↔
      (if a = [] then ['/'] else a) = if b = [] then ['/'] else b := by
    rw [requestLine, requestLine, List.append_left_inj, List.append_right_inj]
  rw [hinj]
  constructor
  · intro heq hspace
    have hne : uri ≠ [] := List.ne_nil_of_mem hspace
    rw [rereadTarget, if_neg hne] at heq
    split_ifs at heq with hcut
    · rw [← heq] at hspace
      exact absurd hspace (by decide)
    · have hall := List.takeWhile_eq_self_iff.mp heq ' ' hspace
      exact absurd hall (by decide)
  · intro hspace
    have hprinted : ' ' ∉ if uri = [] then ['/'] else uri := by
      split_ifs
      · decide
      · exact hspace
    have hwhole : rereadTarget uri = if uri = [] then ['/'] else uri := by
      rw [rereadTarget, List.takeWhile_eq_self_iff]
      intro c hc
      have hne : c ≠ ' ' := fun heq => hprinted (heq ▸ hc)
      simpa using hne
    have hne : (if uri = [] then ['/'] else uri) ≠ [] := by
      split_ifs with huri
      · exact List.cons_ne_nil _ _
      · exact huri
    rw [hwhole, if_neg hne]

theorem reread_eq_some_iff (e : Text × Text) :
    reread e = some e ↔ e.2 ≠ [] ∧ Tight isSpace e.2 := by
  rw [reread, Option.ite_none_left_eq_some, Option.some_inj]
  constructor
  · intro ⟨hne, heq⟩
    have htrim : trimBoth isSpace e.2 = e.2 := congrArg Prod.snd heq
    exact ⟨htrim ▸ hne, htrim ▸ tight_trimBoth e.2⟩
  · intro ⟨hne, htight⟩
    rw [htight.trimBoth_eq]
    exact ⟨hne, rfl⟩

/-- The printed fields are read back exactly if each of them is. -/
theorem map_reread_iff (es : List (Text × Text)) :
    (es.filterMap reread).map fieldLine = es.map fieldLine ↔ ∀ e ∈ es, reread e = some e := by
  induction es with
  | nil => simp
  | cons e es ih =>
    rw [List.forall_mem_cons, ← ih]
    cases hread : reread e with
    | none =>
      rw [List.filterMap_cons_none hread]
      constructor
      · intro heq
        have hlength := congrArg List.length heq
        have hle := List.length_filterMap_le reread es
        simp only [List.length_map, List.length_cons] at hlength
        omega
      · intro ⟨hsome, _⟩
        cases hsome
    | some e' =>
      have hname : e'.1 = e.1 := reread_fst hread
      rw [List.filterMap_cons_some hread, List.map_cons, List.map_cons, List.cons.injEq,
        Option.some_inj]
      apply and_congr_left'
      constructor
      · intro hline
        rw [fieldLine, fieldLine, hname] at hline
        exact Prod.ext hname (List.append_cancel_left hline)
      · intro heq
        rw [heq]

/-- A printable header is in normal form if no space cuts its target and its values are tight. -/
theorem Printable.print_eq_iff {m : Headers} (h : Printable m) :
    getBuffer (parseBuffer (getBuffer m)) = getBuffer m ↔
      ' ' ∉ getHeader m ['G', 'E', 'T'] ∧ ∀ e ∈ fields m, e.2 ≠ [] ∧ Tight isSpace e.2 := by
  rw [getBuffer_eq_iff h (printable_parseBuffer _), h.getHeader_get_reparse, fields_reparse h,
    requestLine_reread_iff, map_reread_iff]
  simp only [reread_eq_some_iff]

end Twice

section NormalForm

/-- A field with a space inside its value. -/
def SpacedField (line : Text) : Prop :=
  isGetLine (trimBoth isSpace line) = false ∧
    ∃ e ∈ readField (trimBoth isSpace line), ' ' ∈ e.2

/-- The target of a CONNECT line. -/
def connectTarget (line : Text) : Text := midToSpace ((trimBoth isSpace line).drop 8)

/-- A CONNECT line whose target is empty or has whitespace at its ends. -/
def LooseConnect (line : Text) : Prop :=
  isConnectLine (trimBoth isSpace line) = true ∧
    ¬ (connectTarget line ≠ [] ∧ Tight isSpace (connectTarget line))

/-- The last line that names `get` is no field with a space in its value, and the last that
names `connect` is no CONNECT line with a loose target. -/
structure NormalForm (t : Text) : Prop where
  get : ∀ line, LastNaming getName t line → ¬ SpacedField line
  connect : ∀ line, LastNaming connectName t line → ¬ LooseConnect line

theorem getName_ne_connectName : getName ≠ connectName := by decide

theorem spaced_target_iff (t : Text) :
    ' ' ∈ getHeader (parseBuffer t) ['G', 'E', 'T'] ↔
      ∃ line, LastNaming getName t line ∧ SpacedField line := by
  constructor
  · intro hspace
    cases hfind : (parseBuffer t).find getName with
    | none =>
      rw [getHeader, lower_get, hfind] at hspace
      cases hspace
    | some v =>
      rw [getHeader, lower_get, hfind, Option.getD_some] at hspace
      obtain ⟨line, hlast, hread⟩ := (find_parseBuffer t getName v).mp hfind
      refine ⟨line, hlast, ?_⟩
      rcases readLine_cases hread with ⟨-, he⟩ | ⟨-, -, he⟩ | ⟨hget, -, hfield⟩
      · have hv := congrArg Prod.snd he
        simp only at hv
        rw [hv, midToSpace_eq] at hspace
        exact absurd (List.mem_takeWhile_imp hspace) (by decide)
      · exact absurd (congrArg Prod.fst he) getName_ne_connectName
      · exact ⟨hget, (getName, v), hfield, hspace⟩
  · intro hspaced
    obtain ⟨line, hlast, hget, e, hfield, hspace⟩ := hspaced
    obtain ⟨v, hread⟩ := hlast.names
    have hfind := (find_parseBuffer t getName v).mpr ⟨line, hlast, hread⟩
    rw [getHeader, lower_get, hfind, Option.getD_some]
    rcases readLine_cases hread with ⟨hline, -⟩ | ⟨-, -, he⟩ | ⟨-, -, hread⟩
    · rw [hline] at hget
      cases hget
    · exact absurd (congrArg Prod.fst he) getName_ne_connectName
    · rw [Option.mem_def, hread] at hfield
      rwa [← Option.some.inj hfield] at hspace

theorem loose_value_iff (t : Text) :
    (∃ e ∈ fields (parseBuffer t), ¬ (e.2 ≠ [] ∧ Tight isSpace e.2)) ↔
      ∃ line, LastNaming connectName t line ∧ LooseConnect line := by
  constructor
  · intro hentry
    obtain ⟨e, he, hloose⟩ := hentry
    obtain ⟨hentry, hname⟩ := mem_fields.mp he
    obtain ⟨line, hlast, hread⟩ := mem_parseBuffer.mp hentry
    rcases readLine_cases hread with ⟨-, rfl⟩ | ⟨-, hconnect, rfl⟩ | ⟨-, -, hfield⟩
    · exact absurd rfl hname
    · exact ⟨line, hlast, hconnect, hloose⟩
    · exact absurd (readField_value (tight_trimBoth line) hfield) hloose
  · intro hloose
    obtain ⟨line, hlast, hconnect, hloose⟩ := hloose
    obtain ⟨v, hread⟩ := hlast.names
    have hentry : (connectName, v) ∈ (parseBuffer t).entries :=
      mem_parseBuffer.mpr ⟨line, hlast, hread⟩
    refine ⟨_, mem_fields.mpr ⟨hentry, getName_ne_connectName.symm⟩, ?_⟩
    rcases readLine_cases hread with ⟨-, he⟩ | ⟨-, -, he⟩ | ⟨-, hline, -⟩
    · exact absurd (congrArg Prod.fst he) getName_ne_connectName.symm
    · rw [he]
      exact hloose
    · rw [hline] at hconnect
      cases hconnect

/-- Printing what was parsed a second time changes nothing exactly for these texts. -/
theorem print_print_iff (t : Text) : print (print t) = print t ↔ NormalForm t := by
  have hget := not_congr (spaced_target_iff t)
  have hvalues := not_congr (loose_value_iff t)
  have htwice := (printable_parseBuffer t).print_eq_iff
  constructor
  · intro heq
    obtain ⟨hspace, htight⟩ := htwice.mp heq
    constructor
    · intro line hlast hspaced
      exact hget.mp hspace ⟨line, hlast, hspaced⟩
    · intro line hlast hloose
      apply hvalues.mp ?_ ⟨line, hlast, hloose⟩
      intro ⟨e, he, hnot⟩
      exact hnot (htight e he)
  · intro hnormal
    apply htwice.mpr
    constructor
    · apply hget.mpr
      intro ⟨line, hlast, hspaced⟩
      exact hnormal.get line hlast hspaced
    · intro e he
      by_contra hnot
      obtain ⟨line, hlast, hloose⟩ := (loose_value_iff t).mp ⟨e, he, hnot⟩
      exact hnormal.connect line hlast hloose

/-- A field named like the request: its value is cut when it is read as a target. -/
theorem getField_cut :
    print (print ['g', 'e', 't', ':', ' ', 'a', ' ', 'b']) ≠
      print ['g', 'e', 't', ':', ' ', 'a', ' ', 'b'] := by
  decide

end NormalForm

end KinectHelper.HttpHeader
