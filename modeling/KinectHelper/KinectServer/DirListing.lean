import KinectHelper.KinectTypes.VideoFrame

namespace KinectHelper.DirListing

/-- A file name: the characters before the terminating NUL. -/
abbrev Name := List Char

structure DirEntry where
  d_name : Name
  isDirectory : Bool
  deriving DecidableEq

/-- How a call ends: it returns, `substr` throws, or `readdir` is called with a NULL pointer. -/
inductive Outcome where
  | returned (result : Bool) (listing : List Name)
  | outOfRange
  | nullDir
  deriving DecidableEq

/-- `int extLen = strlen(ext)` -/
def intLength (ext : Name) : Int := (ext.length : Int).bmod (2^32)

/-- `fn.length() - extLen`, an unsigned difference. -/
def startOf (abi : Abi) (fn ext : Name) : Nat :=
  (((fn.length : Int) - intLength ext) % 2^(8 * abi.sizeofPointer)).toNat

/-- `fn.substr(pos)`; `none` is the exception `out_of_range`. -/
def substr (fn : Name) (pos : Nat) : Option Name :=
  if pos ≤ fn.length then some (fn.drop pos) else none

/-- The loop over the entries. -/
def readEntries (abi : Abi) (ext : Name) : List DirEntry → List Name → Option (List Name)
  | [], listing => some listing
  | ent::entries, listing =>
      (substr ent.d_name (startOf abi ent.d_name ext)).bind fun tail =>
        readEntries abi ext entries (if tail = ext then listing ++ [ent.d_name] else listing)

/-- The POSIX branch; `dir` is what `opendir` returns, with the entries it will yield. -/
def getDirListing (abi : Abi) (dir : Option (List DirEntry)) (ext : Name) (listing : List Name) :
    Outcome :=
  match dir with
  | none => .nullDir
  | some entries =>
      match readEntries abi ext entries listing with
      | none => .outOfRange
      | some listing => .returned false listing

/-- The Windows branch; `found` is what the search for `curPath\*.ext` finds. -/
def getDirListingWindows (curPath : Name) (found : List DirEntry) (listing : List Name) : Outcome :=
  if found = [] then .returned false listing
  else .returned true (listing ++
    (found.filter fun ffd => !ffd.isDirectory).map fun ffd => curPath ++ ['\\'] ++ ffd.d_name)

/-- What a search for `*.ext` in the directory finds. -/
def search (ext : Name) (entries : List DirEntry) : List DirEntry :=
  entries.filter fun ent => decide ('.' :: ext <:+ ent.d_name)

/-- The call appends the paths of the files that the search finds, and returns true. -/
def ListsFiles (path ext : Name) (entries : List DirEntry) (listing : List Name) (o : Outcome) :
    Prop :=
  o = .returned true (listing ++
    ((search ext entries).filter fun ent => !ent.isDirectory).map fun ent =>
      path ++ ['/'] ++ ent.d_name)

/-- The Windows branch does so, with its own separator, when the search finds anything. -/
theorem windows_listsFiles (curPath ext : Name) (entries : List DirEntry) (listing : List Name)
    (hfound : search ext entries ≠ []) :
    getDirListingWindows curPath (search ext entries) listing = .returned true (listing ++
      ((search ext entries).filter fun ent => !ent.isDirectory).map fun ent =>
        curPath ++ ['\\'] ++ ent.d_name) := by
  rw [getDirListingWindows, if_neg hfound]

section Posix

variable (abi : Abi) {ext : Name}

theorem intLength_eq (hext : ext.length < 2^31) : intLength ext = ext.length := by
  unfold intLength
  rw [Int.bmod_def]
  push_cast
  split_ifs <;> omega

theorem startOf_long {fn : Name} (hext : ext.length < 2^31) (hfn : fn.length < 2^31)
    (hlong : ext.length ≤ fn.length) : startOf abi fn ext = fn.length - ext.length := by
  rw [startOf, intLength_eq hext]
  cases abi <;> simp only [Abi.sizeofPointer] <;> omega

theorem startOf_short {fn : Name} (hext : ext.length < 2^31) (hshort : fn.length < ext.length) :
    fn.length < startOf abi fn ext := by
  rw [startOf, intLength_eq hext]
  cases abi <;> simp only [Abi.sizeofPointer] <;> omega

/-- `substr` throws for a name shorter than the extension. -/
theorem substr_tail {fn : Name} (hext : ext.length < 2^31) (hfn : fn.length < 2^31) :
    substr fn (startOf abi fn ext) =
      if ext.length ≤ fn.length then some (fn.drop (fn.length - ext.length)) else none := by
  by_cases hlong : ext.length ≤ fn.length
  · rw [startOf_long abi hext hfn hlong, if_pos hlong, substr, if_pos (Nat.sub_le _ _)]
  · have hbeyond := startOf_short abi hext (Nat.lt_of_not_le hlong)
    rw [if_neg hlong, substr, if_neg (Nat.not_le.mpr hbeyond)]

/-- The names that end in the extension, directories and names without a dot among them. -/
def suffixed (ext : Name) (entries : List DirEntry) : List Name :=
  (entries.filter fun ent => decide (ext <:+ ent.d_name)).map DirEntry.d_name

theorem readEntries_eq (hext : ext.length < 2^31) (entries : List DirEntry) (listing : List Name)
    (hnames : ∀ ent ∈ entries, ent.d_name.length < 2^31) :
    readEntries abi ext entries listing =
      if ∀ ent ∈ entries, ext.length ≤ ent.d_name.length
      then some (listing ++ suffixed ext entries) else none := by
  induction entries generalizing listing with
  | nil => simp [readEntries, suffixed]
  | cons ent entries ih =>
    rw [List.forall_mem_cons] at hnames
    rw [readEntries, substr_tail abi hext hnames.1]
    by_cases hlong : ext.length ≤ ent.d_name.length
    · have htail : ent.d_name.drop (ent.d_name.length - ext.length) = ext ↔
          ext <:+ ent.d_name := by
        rw [List.suffix_iff_eq_drop]
        exact eq_comm
      rw [if_pos hlong, Option.bind_some, ih _ hnames.2]
      simp only [List.forall_mem_cons, hlong, true_and, htail]
      by_cases hsuffix : ext <:+ ent.d_name
      · simp [hsuffix, suffixed]
      · simp [hsuffix, suffixed]
    · rw [if_neg hlong, Option.bind_none, if_neg]
      intro hall
      exact hlong (hall ent List.mem_cons_self)

/-- The branch throws if and only if some name is shorter than the extension; otherwise it returns
false and has appended bare names. -/
theorem getDirListing_eq (hext : ext.length < 2^31) (entries : List DirEntry)
    (listing : List Name) (hnames : ∀ ent ∈ entries, ent.d_name.length < 2^31) :
    getDirListing abi (some entries) ext listing =
      if ∀ ent ∈ entries, ext.length ≤ ent.d_name.length
      then .returned false (listing ++ suffixed ext entries) else .outOfRange := by
  rw [getDirListing, readEntries_eq abi hext entries listing hnames]
  by_cases hall : ∀ ent ∈ entries, ext.length ≤ ent.d_name.length
  · simp only [if_pos hall]
  · simp only [if_neg hall]

end Posix

/-- The objects that a caller loads: it looks at the listing only when the result is true. -/
def filesToLoad : Outcome → List Name
  | .returned true listing => listing
  | .returned false _ | .outOfRange | .nullDir => []

/-- The POSIX branch never returns true. -/
theorem getDirListing_false {abi : Abi} {dir : Option (List DirEntry)} {ext : Name}
    {listing listed : List Name} {result : Bool}
    (h : getDirListing abi dir ext listing = .returned result listed) : result = false := by
  unfold getDirListing at h
  cases dir with
  | none => cases h
  | some entries =>
    cases hread : readEntries abi ext entries listing with
    | none => simp [hread] at h
    | some l =>
      simp only [hread, Outcome.returned.injEq] at h
      exact h.1.symm

/-- Neither caller loads a file on POSIX. -/
theorem filesToLoad_posix (abi : Abi) (dir : Option (List DirEntry)) (ext : Name)
    (listing : List Name) : filesToLoad (getDirListing abi dir ext listing) = [] := by
  cases h : getDirListing abi dir ext listing with
  | returned result listed =>
    rw [getDirListing_false h]
    rfl
  | outOfRange => rfl
  | nullDir => rfl

/-- On no directory and for no extension does the POSIX branch list the files. -/
theorem getDirListing_never_listsFiles (abi : Abi) (path ext : Name) (entries : List DirEntry)
    (listing : List Name) :
    ¬ ListsFiles path ext entries listing (getDirListing abi (some entries) ext listing) := by
  intro hlists
  exact absurd (getDirListing_false hlists) (by decide)

/-- `.`, `..` and a file `a.xml`. -/
def oneFile : List DirEntry :=
  [⟨['.'], true⟩, ⟨['.', '.'], true⟩, ⟨['a', '.', 'x', 'm', 'l'], false⟩]

theorem oneFile_outOfRange :
    getDirListing .lp64 (some oneFile) ['x', 'm', 'l'] [] = .outOfRange ∧
      ¬ ListsFiles ['o'] ['x', 'm', 'l'] oneFile []
        (getDirListing .lp64 (some oneFile) ['x', 'm', 'l'] []) := by
  have hthrows : getDirListing .lp64 (some oneFile) ['x', 'm', 'l'] [] = .outOfRange := by
    decide
  refine ⟨hthrows, ?_⟩
  intro hlists
  rw [hthrows] at hlists
  cases hlists

end KinectHelper.DirListing
