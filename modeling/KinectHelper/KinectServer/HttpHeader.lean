import KinectHelper.Framework.SortedMap
import KinectHelper.Framework.Text
import Mathlib.Data.Char
import Mathlib.Data.List.Lex

namespace KinectHelper.HttpHeader

/-- A `wxString`, of ASCII characters other than NUL. -/
abbrev Text := List Char

abbrev Headers := SortedMap Text Text

/-- The delimiters `"\n\r"`. -/
def isDelimiter (c : Char) : Bool := decide (c = '\n' ∨ c = '\r')

def lower (s : Text) : Text := s.map Char.toLower

def getName : Text := ['g', 'e', 't']

def connectName : Text := ['c', 'o', 'n', 'n', 'e', 'c', 't']

def crlf : Text := ['\r', '\n']

def getHeader (headers : Headers) (name : Text) : Text := (headers.find (lower name)).getD []

def setHeader (headers : Headers) (name value : Text) : Headers := headers.insert (lower name) value

/-- `"GET %s HTTP/1.1"` -/
def requestLine (uri : Text) : Text :=
  ['G', 'E', 'T', ' '] ++ (if uri = [] then ['/'] else uri) ++
    [' ', 'H', 'T', 'T', 'P', '/', '1', '.', '1']

/-- `"%s: %s"` -/
def fieldLine (e : Text × Text) : Text := e.1 ++ [':', ' '] ++ e.2

def getBuffer (headers : Headers) : Text :=
  requestLine (getHeader headers ['G', 'E', 'T']) ++ crlf ++
    (headers.entries.flatMap fun e => if e.1 = getName then [] else fieldLine e ++ crlf) ++ crlf

/-- `line.Mid(0, end)`, `end` being the place of the first space if there is one. -/
def midToSpace (line : Text) : Text :=
  match findSub [' '] line with
  | some i => line.take i
  | none => line

def isGetLine (line : Text) : Bool := decide (lower (line.take 4) = getName ++ [' '])

def isConnectLine (line : Text) : Bool := decide (lower (line.take 8) = connectName ++ [' '])

/-- The lines of the loop that look for `": "`. -/
def readField (line : Text) : Option (Text × Text) :=
  (findSub [':', ' '] line).map fun column =>
    (lower ((line.take column).rdropWhile isSpace), (line.drop (column + 2)).dropWhile isSpace)

/-- The body of the loop in `_ParseBuffer`: the header that a line sets. -/
def readLine (line : Text) : Option (Text × Text) :=
  let line := trimBoth isSpace line
  if line = [] then none
  else if isGetLine line then some (getName, midToSpace (line.drop 4))
  else if isConnectLine line then some (connectName, midToSpace (line.drop 8))
  else readField line

/-- `_ParseBuffer` -/
def parseBuffer (buffer : Text) : Headers :=
  (tokens isDelimiter buffer).foldl (fun headers line =>
    match readLine line with
    | none => headers
    | some e => headers.insert e.1 e.2) .empty

theorem parseBuffer_eq (buffer : Text) :
    parseBuffer buffer =
      SortedMap.empty.insertAll ((tokens isDelimiter buffer).filterMap readLine) := by
  rw [SortedMap.insertAll, List.foldl_filterMap, parseBuffer]
  congr 1
  funext headers line
  cases readLine line with
  | none => rfl
  | some e => rfl

theorem midToSpace_eq (line : Text) : midToSpace line = line.takeWhile (· ≠ ' ') :=
  take_findSub_singleton ' ' line

section Case

theorem toLower_toNat (c : Char) :
    c.toLower.toNat = if 65 ≤ c.toNat ∧ c.toNat ≤ 90 then c.toNat + 32 else c.toNat := by
  have hupper : (c.val ≥ 'A'.val ∧ c.val ≤ 'Z'.val) ↔ 65 ≤ c.toNat ∧ c.toNat ≤ 90 := by
    simp only [ge_iff_le, UInt32.le_iff_toNat_le]
    exact Iff.rfl
  unfold Char.toLower
  by_cases h : 65 ≤ c.toNat ∧ c.toNat ≤ 90
  · rw [dif_pos (hupper.mpr h), if_pos h]
    change (c.val + ('a'.val - 'A'.val)).toNat = c.val.toNat + 32
    have hval : c.val.toNat ≤ 90 := h.2
    rw [UInt32.toNat_add, Nat.mod_eq_of_lt]
    · rfl
    · change c.val.toNat + 32 < 2^32
      omega
  · rw [dif_neg (fun hc => h (hupper.mp hc)), if_neg h]

theorem toLower_toLower (c : Char) : c.toLower.toLower = c.toLower := by
  apply Char.toNat_inj.mp
  rw [toLower_toNat, toLower_toNat]
  split_ifs <;> omega

/-- A character that is no letter is the lower case of itself only. -/
theorem eq_toLower_iff {a : Char} (ha : a.toNat < 65) (c : Char) : a = c.toLower ↔ a = c := by
  rw [← Char.toNat_inj, ← Char.toNat_inj, toLower_toNat]
  split_ifs <;> omega

theorem isSpace_toLower (c : Char) : isSpace c.toLower = isSpace c := by
  have hspace : c.toLower = ' ' ↔ c = ' ' := by
    rw [eq_comm, eq_toLower_iff (by decide), eq_comm]
  unfold isSpace
  rw [decide_eq_decide, hspace, toLower_toNat]
  apply or_congr_right
  split_ifs <;> omega

theorem isDelimiter_toLower (c : Char) : isDelimiter c.toLower = isDelimiter c := by
  have hnewline : c.toLower = '\n' ↔ c = '\n' := by
    rw [eq_comm, eq_toLower_iff (by decide), eq_comm]
  have hreturn : c.toLower = '\r' ↔ c = '\r' := by
    rw [eq_comm, eq_toLower_iff (by decide), eq_comm]
  unfold isDelimiter
  rw [decide_eq_decide, hnewline, hreturn]

theorem lower_lower (s : Text) : lower (lower s) = lower s := by
  rw [lower, lower, List.map_map]
  exact List.map_congr_left fun c _ => toLower_toLower c

theorem tight_lower {s : Text} (h : Tight isSpace s) : Tight isSpace (lower s) where
  head := by
    intro c hc
    rw [lower, List.head?_map, Option.mem_def, Option.map_eq_some_iff] at hc
    obtain ⟨d, hd, rfl⟩ := hc
    rw [isSpace_toLower]
    exact h.head d hd
  last := by
    intro c hc
    rw [lower, List.getLast?_map, Option.mem_def, Option.map_eq_some_iff] at hc
    obtain ⟨d, hd, rfl⟩ := hc
    rw [isSpace_toLower]
    exact h.last d hd

theorem findSub_lower (s : Text) : findSub [':', ' '] (lower s) = findSub [':', ' '] s :=
  findSub_pair_map Char.toLower (eq_toLower_iff (by decide)) (eq_toLower_iff (by decide)) s

end Case

theorem lower_get : lower ['G', 'E', 'T'] = getName := by decide

/-- On one line of the buffer. -/
def OneLine (s : Text) : Prop := ∀ c ∈ s, isDelimiter c = false

instance (s : Text) : Decidable (OneLine s) :=
  List.decidableBAll (fun c => isDelimiter c = false) s

theorem OneLine.toLower {s : Text} (h : OneLine s) : OneLine (lower s) := by
  intro c hc
  obtain ⟨d, hd, rfl⟩ := List.mem_map.mp hc
  rw [isDelimiter_toLower]
  exact h d hd

/-- A name that `fieldLine` prints so that it is read back. -/
structure PlainName (name : Text) : Prop where
  lowerCase : lower name = name
  tight : Tight isSpace name
  noColon : findSub [':', ' '] name = none
  noGet : ¬ getName ++ [' '] <+: name
  noConnect : ¬ connectName ++ [' '] <+: name
  oneLine : OneLine name

theorem plainName_getName : PlainName getName :=
  ⟨by decide, by decide, by decide, by decide, by decide, by decide⟩

theorem plainName_connectName : PlainName connectName :=
  ⟨by decide, by decide, by decide, by decide, by decide, by decide⟩

theorem isGetLine_iff (line : Text) : isGetLine line = true ↔ getName ++ [' '] <+: lower line := by
  rw [isGetLine, decide_eq_true_iff, List.prefix_iff_eq_take, eq_comm, lower, List.map_take]
  rfl

theorem isConnectLine_iff (line : Text) :
    isConnectLine line = true ↔ connectName ++ [' '] <+: lower line := by
  rw [isConnectLine, decide_eq_true_iff, List.prefix_iff_eq_take, eq_comm, lower, List.map_take]
  rfl

section Reading

theorem tight_requestLine (uri : Text) : Tight isSpace (requestLine uri) where
  head := by
    intro c hc
    obtain rfl : 'G' = c := by simpa [requestLine] using hc
    rfl
  last := by
    intro c hc
    have hlast : (requestLine uri).getLast? = some '1' := by
      rw [requestLine, List.getLast?_append]
      rfl
    obtain rfl : '1' = c := Option.some.inj (hlast.symm.trans hc)
    rfl

/-- The request line is read as far as the first space of its target. -/
theorem readLine_requestLine (uri : Text) :
    readLine (requestLine uri) =
      some (getName, (if uri = [] then ['/'] else uri).takeWhile (· ≠ ' ')) := by
  have hget : isGetLine (requestLine uri) = true := by
    rw [isGetLine_iff]
    exact ⟨_, rfl⟩
  have hdrop : (requestLine uri).drop 4 = (if uri = [] then ['/'] else uri) ++
      [' ', 'H', 'T', 'T', 'P', '/', '1', '.', '1'] := by
    rw [requestLine, List.append_assoc]
    rfl
  have hne : requestLine uri ≠ [] := by simp [requestLine]
  unfold readLine
  rw [(tight_requestLine uri).trimBoth_eq]
  simp only [if_neg hne, if_pos hget, hdrop, midToSpace_eq]
  generalize (if uri = [] then ['/'] else uri) = target
  congr 2
  induction target with
  | nil => rfl
  | cons c target ih =>
    by_cases hc : c = ' '
    · simp [hc]
    · simp only [List.cons_append, List.takeWhile_cons, hc, ne_eq, not_false_eq_true, decide_true,
        if_true, ih]

theorem dropWhile_fieldLine {name : Text} (hname : Tight isSpace name) (rest : Text) :
    (name ++ ':' :: rest).dropWhile isSpace = name ++ ':' :: rest := by
  apply dropWhile_of_head
  cases name with
  | nil =>
    intro c hc
    obtain rfl : ':' = c := Option.some.inj hc
    rfl
  | cons a name => exact fun c hc => hname.head c hc

theorem rdropWhile_append (l m : Text) :
    (l ++ m).rdropWhile isSpace =
      if m.rdropWhile isSpace = [] then l.rdropWhile isSpace else l ++ m.rdropWhile isSpace := by
  simp only [List.rdropWhile, List.reverse_append, List.dropWhile_append, List.isEmpty_iff,
    List.reverse_eq_nil_iff]
  split_ifs <;> simp

/-- A line that begins with a plain name and a colon is neither a GET nor a CONNECT line. -/
theorem PlainName.no_request {name : Text} (h : PlainName name) (rest : Text) :
    isGetLine (name ++ ':' :: rest) = false ∧ isConnectLine (name ++ ':' :: rest) = false := by
  have hlower : lower (name ++ ':' :: rest) = name ++ ':' :: lower rest := by
    rw [lower, List.map_append, List.map_cons]
    change lower name ++ _ = _
    rw [h.lowerCase]
    rfl
  rw [← Bool.not_eq_true, ← Bool.not_eq_true, isGetLine_iff, isConnectLine_iff, hlower]
  constructor
  · intro hpre
    exact h.noGet (prefix_of_prefix_append_cons (by decide) hpre)
  · intro hpre
    exact h.noConnect (prefix_of_prefix_append_cons (by decide) hpre)

/-- A field is read as its name and its trimmed value, and not at all when that is empty. -/
theorem readLine_fieldLine {name : Text} (h : PlainName name) (value : Text) :
    readLine (fieldLine (name, value)) =
      if trimBoth isSpace value = [] then none else some (name, trimBoth isSpace value) := by
  have hline : fieldLine (name, value) = name ++ ':' :: ' ' :: value := by simp [fieldLine]
  have hcolon : [':', ' '].rdropWhile isSpace = [':'] := by decide
  have hright : (name ++ ':' :: ' ' :: value).rdropWhile isSpace =
      if value.rdropWhile isSpace = [] then name ++ [':']
      else name ++ ':' :: ' ' :: value.rdropWhile isSpace := by
    have hsplit : name ++ ':' :: ' ' :: value = (name ++ [':', ' ']) ++ value := by simp
    have hfront : (name ++ [':', ' ']).rdropWhile isSpace = name ++ [':'] := by
      rw [rdropWhile_append, hcolon, if_neg (by decide)]
    rw [hsplit, rdropWhile_append, hfront]
    split_ifs <;> simp
  rw [hline]
  unfold readLine
  by_cases hempty : value.rdropWhile isSpace = []
  · have htrim : trimBoth isSpace (name ++ ':' :: ' ' :: value) = name ++ [':'] := by
      rw [trimBoth, hright, if_pos hempty, dropWhile_fieldLine h.tight]
    have hvalue : trimBoth isSpace value = [] := trimBoth_eq_nil.mpr hempty
    obtain ⟨hget, hconnect⟩ := h.no_request []
    have hne : name ++ [':'] ≠ [] := by simp
    simp only [htrim, if_neg hne, hget, hconnect, if_pos hvalue]
    simp [readField, findSub_pair_end (by decide) h.noColon]
  · have htrim : trimBoth isSpace (name ++ ':' :: ' ' :: value) =
        name ++ ':' :: ' ' :: value.rdropWhile isSpace := by
      rw [trimBoth, hright, if_neg hempty, dropWhile_fieldLine h.tight]
    have hvalue : trimBoth isSpace value ≠ [] := fun hnil => hempty (trimBoth_eq_nil.mp hnil)
    obtain ⟨hget, hconnect⟩ := h.no_request (' ' :: value.rdropWhile isSpace)
    have hne : name ++ ':' :: ' ' :: value.rdropWhile isSpace ≠ [] := by simp
    simp only [htrim, if_neg hne, hget, hconnect, if_neg hvalue]
    have hfind := findSub_pair_append (by decide) h.noColon (value.rdropWhile isSpace)
    simp [readField, hfind, rdropWhile_of_last h.tight.last, h.lowerCase, trimBoth]

end Reading

section Printing

/-- Every name is plain, and every value is on one line. -/
def Printable (headers : Headers) : Prop :=
  ∀ e ∈ headers.entries, PlainName e.1 ∧ OneLine e.2

/-- The headers that are printed as fields. -/
def fields (headers : Headers) : List (Text × Text) :=
  headers.entries.filter fun e => e.1 ≠ getName

theorem mem_fields {headers : Headers} {e : Text × Text} :
    e ∈ fields headers ↔ e ∈ headers.entries ∧ e.1 ≠ getName := by
  simp [fields]

theorem getBuffer_eq (headers : Headers) :
    getBuffer headers = requestLine (getHeader headers ['G', 'E', 'T']) ++ crlf ++
      (fields headers).flatMap (fun e => fieldLine e ++ crlf) ++ crlf := by
  have hskip (es : List (Text × Text)) :
      (es.flatMap fun e => if e.1 = getName then [] else fieldLine e ++ crlf) =
        (es.filter fun e => e.1 ≠ getName).flatMap fun e => fieldLine e ++ crlf := by
    induction es with
    | nil => rfl
    | cons e es ih =>
      rw [List.flatMap_cons, ih]
      by_cases he : e.1 = getName
      · simp [he]
      · simp [he]
  rw [getBuffer, hskip]
  rfl

theorem fieldLine_ne_nil (e : Text × Text) : fieldLine e ≠ [] := by simp [fieldLine]

theorem oneLine_fieldLine {e : Text × Text} (hname : OneLine e.1) (hvalue : OneLine e.2) :
    OneLine (fieldLine e) := by
  intro c hc
  simp only [fieldLine, List.mem_append, List.mem_cons, List.not_mem_nil, or_false] at hc
  rcases hc with (hc | hc | hc) | hc
  · exact hname c hc
  · rw [hc]
    rfl
  · rw [hc]
    rfl
  · exact hvalue c hc

theorem oneLine_requestLine {uri : Text} (h : OneLine uri) : OneLine (requestLine uri) := by
  have htarget : OneLine (if uri = [] then ['/'] else uri) := by
    split_ifs
    · decide
    · exact h
  have hstart : OneLine ['G', 'E', 'T', ' '] := by decide
  have hend : OneLine [' ', 'H', 'T', 'T', 'P', '/', '1', '.', '1'] := by decide
  intro c hc
  rcases List.mem_append.mp hc with hfront | hback
  · rcases List.mem_append.mp hfront with hget | hmid
    · exact hstart c hget
    · exact htarget c hmid
  · exact hend c hback

theorem tokens_fields {es : List (Text × Text)} (h : ∀ e ∈ es, OneLine (fieldLine e)) :
    tokens isDelimiter (es.flatMap (fun e => fieldLine e ++ crlf) ++ crlf) = es.map fieldLine := by
  induction es with
  | nil => rfl
  | cons e es ih =>
    rw [List.forall_mem_cons] at h
    have hsplit : (e::es).flatMap (fun e => fieldLine e ++ crlf) ++ crlf =
        fieldLine e ++ '\r' :: '\n' :: (es.flatMap (fun e => fieldLine e ++ crlf) ++ crlf) := by
      simp [crlf]
    rw [hsplit, tokens_cons h.1 (fieldLine_ne_nil e) rfl, tokens_delimiter rfl, ih h.2,
      List.map_cons]

theorem Printable.value {headers : Headers} (h : Printable headers) {name : Text} :
    OneLine (getHeader headers name) := by
  unfold getHeader
  cases hfind : headers.find (lower name) with
  | none => exact nofun
  | some v => exact (h _ ((headers.find_eq_some_iff _ _).mp hfind)).2

/-- The lines of the buffer: the request line, and a line for each other header. -/
theorem Printable.tokens_getBuffer {headers : Headers} (h : Printable headers) :
    tokens isDelimiter (getBuffer headers) =
      requestLine (getHeader headers ['G', 'E', 'T']) :: (fields headers).map fieldLine := by
  have hfields : ∀ e ∈ fields headers, OneLine (fieldLine e) := by
    intro e he
    have hentry := h e (mem_fields.mp he).1
    exact oneLine_fieldLine hentry.1.oneLine hentry.2
  have hne : requestLine (getHeader headers ['G', 'E', 'T']) ≠ [] := by simp [requestLine]
  have hsplit : getBuffer headers = requestLine (getHeader headers ['G', 'E', 'T']) ++
      '\r' :: '\n' :: ((fields headers).flatMap (fun e => fieldLine e ++ crlf) ++ crlf) := by
    rw [getBuffer_eq]
    simp [crlf]
  rw [hsplit, tokens_cons (oneLine_requestLine h.value) hne rfl, tokens_delimiter rfl,
    tokens_fields hfields]

/-- What the printed target is read as. -/
def rereadTarget (uri : Text) : Text := (if uri = [] then ['/'] else uri).takeWhile (· ≠ ' ')

/-- What a printed field is read as. -/
def reread (e : Text × Text) : Option (Text × Text) :=
  if trimBoth isSpace e.2 = [] then none else some (e.1, trimBoth isSpace e.2)

theorem Printable.reparse {headers : Headers} (h : Printable headers) :
    parseBuffer (getBuffer headers) =
      (SortedMap.empty.insert getName
        (rereadTarget (getHeader headers ['G', 'E', 'T']))).insertAll
          ((fields headers).filterMap reread) := by
  have hlines : ((fields headers).map fieldLine).filterMap readLine =
      (fields headers).filterMap reread := by
    rw [List.filterMap_map]
    apply List.filterMap_congr
    intro e he
    have hentry := h e (mem_fields.mp he).1
    exact readLine_fieldLine hentry.1 e.2
  rw [parseBuffer_eq, h.tokens_getBuffer,
    List.filterMap_cons_some (readLine_requestLine _), hlines]
  rfl

theorem reread_fst {e e' : Text × Text} (h : reread e = some e') : e'.1 = e.1 := by
  obtain ⟨_, h⟩ := Option.ite_none_left_eq_some.mp h
  rw [← Option.some.inj h]

theorem sorted_reread (headers : Headers) :
    ((fields headers).filterMap reread).Pairwise fun a b => a.1 < b.1 := by
  rw [List.pairwise_filterMap]
  refine (headers.sorted.filter _).imp ?_
  intro a b hlt a' ha b' hb
  rwa [reread_fst ha, reread_fst hb]

/-- What is found after printing and parsing. -/
theorem Printable.find_reparse {headers : Headers} (h : Printable headers) (k v : Text) :
    (parseBuffer (getBuffer headers)).find k = some v ↔
      (k = getName ∧ v = rereadTarget (getHeader headers ['G', 'E', 'T'])) ∨
        (k, v) ∈ (fields headers).filterMap reread := by
  have hget : ∀ w, (getName, w) ∉ (fields headers).filterMap reread := by
    intro w hw
    obtain ⟨e, he, hread⟩ := List.mem_filterMap.mp hw
    exact (mem_fields.mp he).2 (reread_fst hread).symm
  rw [h.reparse, SortedMap.find_insertAll, SortedMap.find_insert, Option.or_eq_some_iff,
    SortedMap.latest_eq_some_iff (sorted_reread headers), or_comm]
  apply or_congr_left
  by_cases hk : getName = k
  · subst hk
    have hnone : SortedMap.latest getName ((fields headers).filterMap reread) = none := by
      rw [SortedMap.latest_eq_none]
      intro e he hname
      exact hget e.2 (hname ▸ he)
    simp [hnone, eq_comm]
  · have hk' : k ≠ getName := fun heq => hk heq.symm
    simp [hk, hk']

theorem Printable.getHeader_get_reparse {headers : Headers} (h : Printable headers) :
    getHeader (parseBuffer (getBuffer headers)) ['G', 'E', 'T'] =
      rereadTarget (getHeader headers ['G', 'E', 'T']) := by
  have hfind := (h.find_reparse getName _).mpr (Or.inl ⟨rfl, rfl⟩)
  rw [getHeader, lower_get, hfind, Option.getD_some]

end Printing

end KinectHelper.HttpHeader
