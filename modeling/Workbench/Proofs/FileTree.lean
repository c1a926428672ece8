import Mathlib.Data.List.Infix
import Mathlib.Data.List.Nodup
import Workbench.FileTree
/-!
# Files below a folder

Folders are not kept, so what a folder holds is told by the paths of the files:
`Below` splits the path of a file after the folder into the names of the
folders on the way and its own. A walk goes down by one name with each folder
it enters, so it ends, and it comes to each file by its own way. But a name may
be empty. Such a folder has the same files as the one it is in, and a walk that
enters it never ends (`FileTree.collectTo_of_blank`).
-/

namespace Workbench

/-! ## Lists -/

section Lists

variable {α β : Type}

/-- A text is a row of names, each with a slash behind it but the last. -/
theorem exists_names (cs : List Char) : ∃ (dirs : List (List Char)) (name : List Char),
    cs = dirs.flatMap (· ++ ['/']) ++ name ∧ (∀ dir ∈ dirs, '/' ∉ dir) ∧ '/' ∉ name := by
  induction cs with
  | nil => exact ⟨[], [], rfl, nofun, nofun⟩
  | cons c cs ih =>
    obtain ⟨dirs, name, rfl, hdirs, hname⟩ := ih
    by_cases hc : '/' = c
    · subst hc
      exact ⟨[] :: dirs, name, by simp, List.forall_mem_cons.mpr ⟨nofun, hdirs⟩, hname⟩
    · cases dirs with
      | nil => exact ⟨[], c :: name, by simp, nofun, by simp [hc, hname]⟩
      | cons dir dirs =>
        rw [List.forall_mem_cons] at hdirs
        exact ⟨(c :: dir) :: dirs, name, by simp,
          List.forall_mem_cons.mpr ⟨by simp [hc, hdirs.1], hdirs.2⟩, hname⟩

/-- What is behind the last slash. -/
theorem reverse_takeWhile_reverse {front name : List Char} (hfront : front.getLast? = some '/')
    (hname : '/' ∉ name) : ((front ++ name).reverse.takeWhile (· != '/')).reverse = name := by
  obtain ⟨start, rfl⟩ := List.getLast?_eq_some_iff.mp hfront
  have hall : ∀ c ∈ name.reverse, (c != '/') = true := by
    intro c hc
    rw [bne_iff_ne]
    rintro rfl
    exact hname (List.mem_reverse.mp hc)
  rw [List.reverse_append, List.reverse_append, List.takeWhile_append_of_pos hall]
  simp

/-- Results that are put together, if there are all of them. -/
theorem foldlM_append (f : α → Option (List β)) (l : List α) (found : List β) :
    l.foldlM (fun found a => (f a).map (found ++ ·)) found =
      if l.all (fun a => (f a).isSome) then some (found ++ l.flatMap fun a => (f a).getD [])
      else none := by
  induction l generalizing found with
  | nil => simp
  | cons a rest ih =>
    rw [List.foldlM_cons]
    cases hf : f a with
    | none => simp [hf]
    | some here => simp [hf, ih, List.append_assoc]

theorem le_foldl_max {l : List ℕ} (m : ℕ) {k : ℕ} (h : k ≤ m ∨ k ∈ l) : k ≤ l.foldl max m := by
  induction l generalizing m with
  | nil => exact h.resolve_right List.not_mem_nil
  | cons a rest ih =>
    refine ih (max m a) ?_
    rcases h with hle | hmem
    · exact .inl (Nat.le_trans hle (Nat.le_max_left _ _))
    · rcases List.mem_cons.mp hmem with rfl | hrest
      · exact .inl (Nat.le_max_right _ _)
      · exact .inr hrest

end Lists

namespace FileTree

variable {t : FileTree} {s : Selection} {folder file : Uri} {dir name : List Char}
  {dirs : List (List Char)} {e : FolderEntry} {n : ℕ}

theorem mem_distinct {l : List FolderEntry} : e ∈ distinct l ↔ e ∈ l := by
  induction l with
  | nil => rfl
  | cons a rest ih =>
    rw [distinct, List.mem_cons, List.mem_cons, List.mem_filter, ih]
    by_cases h : e = a <;> simp [h]

theorem nodup_distinct (l : List FolderEntry) : (distinct l).Nodup := by
  induction l with
  | nil => exact List.nodup_nil
  | cons a rest ih =>
    rw [distinct, List.nodup_cons]
    exact ⟨by simp, ih.filter _⟩

/-- The entries of a folder are what files show of themselves in it. -/
theorem mem_list : e ∈ t.list folder ↔ ∃ file ∈ t.files.keys, entryOf? folder file = some e := by
  simp [list, List.mem_mergeSort, mem_distinct, List.mem_filterMap]

/-- **Every entry is listed once.** -/
theorem nodup_list (t : FileTree) (folder : Uri) : (t.list folder).Nodup := by
  rw [list]
  exact (List.mergeSort_perm _ _).nodup_iff.mpr (nodup_distinct _)

/-! ## The way to a file -/

/-- **A file below a folder**, with the names of the folders on the way to it
and its own. -/
@[mk_iff]
structure Below (folder file : Uri) (dirs : List (List Char)) (name : List Char) : Prop where
  scheme : file.scheme = folder.scheme
  host : file.host = folder.host
  path : file.path.toList = folder.opening ++ (dirs.flatMap (· ++ ['/']) ++ name)
  plain : ∀ dir ∈ dirs, '/' ∉ dir
  last : '/' ∉ name

/-- The folder of a name in a folder. -/
def inside (folder : Uri) (dir : List Char) : Uri := folder.withPath (folder.opening ++ dir)

/-- **The files of a folder have paths**, and the path of a folder above one of
them is stored as it is. -/
structure Regular (t : FileTree) (folder : Uri) : Prop where
  rooted : ∀ file ∈ t.files.keys, file.isRooted = true
  stored : ∀ file ∈ t.files.keys, file.scheme = folder.scheme → file.host = folder.host →
    ∀ above rest, file.path.toList = above ++ '/' :: rest → folder.opening <+: above →
      folder.withPath above = { folder with path := String.ofList above }

theorem getLast?_opening (folder : Uri) : folder.opening.getLast? = some '/' := by
  rw [Uri.opening]
  split
  next h => exact eq_of_beq h
  next => exact List.getLast?_concat

namespace Below

theorem entryOf?_nil (h : Below folder file [] name) :
    entryOf? folder file = some ⟨file, false⟩ := by
  have hrest : folder.opening.isPrefixOf? file.path.toList = some name :=
    List.isPrefixOf?_eq_some_iff_append_eq.mpr h.path.symm
  rw [entryOf?, if_pos ⟨h.scheme, h.host⟩, hrest, Option.map_some, if_neg (by simp [h.last])]

theorem entryOf?_cons (h : Below folder file (dir :: dirs) name) :
    entryOf? folder file = some ⟨inside folder dir, true⟩ := by
  have hrest : folder.opening.isPrefixOf? file.path.toList =
      some ((dir :: dirs).flatMap (· ++ ['/']) ++ name) :=
    List.isPrefixOf?_eq_some_iff_append_eq.mpr h.path.symm
  have hdir : ∀ c ∈ dir, (c != '/') = true := by
    intro c hc
    rw [bne_iff_ne]
    rintro rfl
    exact h.plain dir List.mem_cons_self hc
  have htake : ((dir :: dirs).flatMap (· ++ ['/']) ++ name).takeWhile (· != '/') = dir := by
    rw [List.flatMap_cons, List.append_assoc, List.append_assoc, List.takeWhile_append_of_pos hdir]
    simp
  rw [entryOf?, if_pos ⟨h.scheme, h.host⟩, hrest, Option.map_some, if_pos (by simp), htake]
  rfl

/-- A file below a folder shows something of itself in it. -/
theorem exists_entryOf? (h : Below folder file dirs name) : ∃ e, entryOf? folder file = some e := by
  cases dirs with
  | nil => exact ⟨_, h.entryOf?_nil⟩
  | cons dir dirs => exact ⟨_, h.entryOf?_cons⟩

/-- Only a file directly in a folder shows itself there. -/
theorem eq_of_entryOf?_file {file' : Uri} (h : Below folder file dirs name)
    (he : entryOf? folder file = some ⟨file', false⟩) : dirs = [] ∧ file = file' := by
  cases dirs with
  | nil =>
    rw [h.entryOf?_nil, Option.some.injEq, FolderEntry.mk.injEq] at he
    exact ⟨rfl, he.1⟩
  | cons dir dirs =>
    rw [h.entryOf?_cons, Option.some.injEq, FolderEntry.mk.injEq] at he
    exact absurd he.2.symm Bool.false_ne_true

/-- The name of a file is the last name of its path. -/
theorem name_eq (h : Below folder file dirs name) (hrooted : file.isRooted = true) :
    file.name = String.ofList name := by
  have hfront : (folder.opening ++ dirs.flatMap (· ++ ['/'])).getLast? = some '/' := by
    cases dirs using List.reverseRecOn with
    | nil => simp [getLast?_opening]
    | append_singleton dirs dir => simp
  rw [Uri.name, if_pos hrooted, h.path, ← List.append_assoc, reverse_takeWhile_reverse hfront h.last]

end Below

/-- Every entry is shown by a file below the folder. -/
theorem exists_below (h : entryOf? folder file = some e) :
    ∃ dirs name, Below folder file dirs name := by
  rw [entryOf?] at h
  split at h
  next hplace =>
    obtain ⟨rest, hrest, -⟩ := Option.map_eq_some_iff.mp h
    obtain ⟨dirs, name, rfl, hdirs, hname⟩ := exists_names rest
    exact ⟨dirs, name, hplace.1, hplace.2,
      (List.isPrefixOf?_eq_some_iff_append_eq.mp hrest).symm, hdirs, hname⟩
  next => cases h

/-- **An entry is a file or a folder on the way to one.** -/
theorem entry_cases (h : e ∈ t.list folder) : ∃ file ∈ t.files.keys, ∃ name,
    (Below folder file [] name ∧ e = ⟨file, false⟩) ∨
      ∃ dir dirs, Below folder file (dir :: dirs) name ∧ e = ⟨inside folder dir, true⟩ := by
  obtain ⟨file, hfile, hentry⟩ := mem_list.mp h
  obtain ⟨dirs, name, hbelow⟩ := exists_below hentry
  refine ⟨file, hfile, name, ?_⟩
  cases dirs with
  | nil =>
    rw [hbelow.entryOf?_nil, Option.some.injEq] at hentry
    exact .inl ⟨hbelow, hentry.symm⟩
  | cons dir dirs =>
    rw [hbelow.entryOf?_cons, Option.some.injEq] at hentry
    exact .inr ⟨dir, dirs, hbelow, hentry.symm⟩

/-! ## Going into a folder -/

section Inside

variable (hregular : t.Regular folder) (hfile : file ∈ t.files.keys)
  (hbelow : Below folder file (dir :: dirs) name)

include hregular hfile hbelow

/-- A folder in a folder has the path that it was given. -/
theorem inside_eq :
    inside folder dir = { folder with path := String.ofList (folder.opening ++ dir) } := by
  refine hregular.stored file hfile hbelow.scheme hbelow.host _
    (dirs.flatMap (· ++ ['/']) ++ name) ?_ (List.prefix_append _ _)
  rw [hbelow.path]
  simp

/-- The folders of a folder have different names. -/
theorem inside_inj {file' : Uri} {dir' name' : List Char} {dirs' : List (List Char)}
    (hfile' : file' ∈ t.files.keys) (hbelow' : Below folder file' (dir' :: dirs') name')
    (h : inside folder dir' = inside folder dir) : dir' = dir := by
  rw [inside_eq hregular hfile hbelow, inside_eq hregular hfile' hbelow', Uri.mk.injEq] at h
  have hpath := congrArg String.toList h.2.2.1
  rw [String.toList_ofList, String.toList_ofList] at hpath
  exact List.append_cancel_left hpath

/-- What the paths of its files start with. -/
theorem opening_inside :
    (inside folder dir).opening = folder.opening ++ if dir = [] then [] else dir ++ ['/'] := by
  have hpath : (inside folder dir).path.toList = folder.opening ++ dir := by
    rw [inside_eq hregular hfile hbelow, String.toList_ofList]
  rw [Uri.opening, hpath]
  by_cases hdir : dir = []
  · rw [if_pos hdir, hdir, List.append_nil, getLast?_opening, if_pos (beq_self_eq_true _)]
  · have hlast : ¬ ((folder.opening ++ dir).getLast? == some '/') = true := by
      rw [List.getLast?_append_of_ne_nil _ hdir, List.getLast?_eq_some_getLast hdir, beq_iff_eq,
        Option.some.injEq]
      intro hslash
      exact hbelow.plain dir List.mem_cons_self (hslash ▸ List.getLast_mem hdir)
    rw [if_neg hlast, if_neg hdir, List.append_assoc]

/-- The files below a folder in a folder are below that one too. A folder
without a name has the same files as the one it is in. -/
theorem below_inside_iff {file' : Uri} {dirs' : List (List Char)} {name' : List Char} :
    Below (inside folder dir) file' dirs' name' ↔
      Below folder file' (if dir = [] then dirs' else dir :: dirs') name' := by
  have hsame :
      (inside folder dir).scheme = folder.scheme ∧ (inside folder dir).host = folder.host := by
    rw [inside_eq hregular hfile hbelow]
    exact ⟨rfl, rfl⟩
  have hplain := hbelow.plain dir List.mem_cons_self
  rw [below_iff, below_iff, hsame.1, hsame.2, opening_inside hregular hfile hbelow]
  by_cases hdir : dir = []
  · rw [if_pos hdir, if_pos hdir, List.append_nil]
  · simp [hdir, hplain]

/-- A file that shows a folder has the name of the folder first on its way. -/
theorem exists_dirs_of_inside {file' : Uri} {dirs' : List (List Char)} {name' : List Char}
    (hfile' : file' ∈ t.files.keys) (hbelow' : Below folder file' dirs' name')
    (h : entryOf? folder file' = some ⟨inside folder dir, true⟩) : ∃ rest, dirs' = dir :: rest := by
  cases dirs' with
  | nil =>
    rw [hbelow'.entryOf?_nil, Option.some.injEq, FolderEntry.mk.injEq] at h
    exact absurd h.2 Bool.false_ne_true
  | cons dir' rest =>
    rw [hbelow'.entryOf?_cons, Option.some.injEq, FolderEntry.mk.injEq] at h
    exact ⟨rest, by rw [inside_inj hregular hfile hbelow hfile' hbelow' h.1]⟩

/-- A file has a path, so the paths of the folders above it start with a
slash. -/
theorem exists_opening : ∃ start, folder.opening = '/' :: start := by
  have hrooted : file.path.toList.head? = some '/' := eq_of_beq (hregular.rooted file hfile)
  have hne : folder.opening ≠ [] := by
    intro hnil
    have hlast := getLast?_opening folder
    rw [hnil] at hlast
    cases hlast
  obtain ⟨c, start, hstart⟩ := List.exists_cons_of_ne_nil hne
  rw [hbelow.path, hstart, List.cons_append, List.head?_cons, Option.some.injEq] at hrooted
  exact ⟨start, by rw [hstart, hrooted]⟩

theorem isRooted_inside : (inside folder dir).isRooted = true := by
  obtain ⟨start, hstart⟩ := exists_opening hregular hfile hbelow
  rw [inside_eq hregular hfile hbelow, Uri.isRooted, String.toList_ofList, hstart, List.cons_append,
    List.head?_cons]
  rfl

/-- A folder in a folder is named as it was. -/
theorem name_inside : (inside folder dir).name = String.ofList dir := by
  rw [Uri.name, if_pos (isRooted_inside hregular hfile hbelow), inside_eq hregular hfile hbelow,
    String.toList_ofList, reverse_takeWhile_reverse (getLast?_opening folder)
      (hbelow.plain dir List.mem_cons_self)]

/-- The way down keeps to paths that are stored as they are. -/
theorem regular_inside : t.Regular (inside folder dir) := by
  have hinside := inside_eq hregular hfile hbelow
  have hstarts : folder.opening <+: (inside folder dir).opening := by
    rw [opening_inside hregular hfile hbelow]
    exact List.prefix_append _ _
  refine ⟨hregular.rooted, fun file' hfile' hscheme hhost above rest hpath habove => ?_⟩
  rw [hinside] at hscheme hhost
  have hstored := hregular.stored file' hfile' hscheme hhost above rest hpath (hstarts.trans habove)
  have hslash : ∃ below, above = '/' :: below := by
    obtain ⟨start, hstart⟩ := exists_opening hregular hfile hbelow
    obtain ⟨below, rfl⟩ := hstarts.trans habove
    exact ⟨start ++ below, by rw [hstart, List.cons_append]⟩
  obtain ⟨below, rfl⟩ := hslash
  rw [Uri.withPath, isRooted_inside hregular hfile hbelow, Bool.not_true, Bool.and_false,
    if_neg Bool.false_ne_true, hinside]
  by_cases hopaque : (folder.authority.isNone && !folder.isRooted) = true
  · rw [Uri.withPath, if_pos hopaque, Uri.mk.injEq] at hstored
    have hfirst := congrArg List.head? (String.ofList_injective hstored.2.2.1)
    rw [List.head?_cons, show "%2F".toList = ['%', '2', 'F'] from rfl] at hfirst
    cases hfirst
  · rw [Uri.withPath, if_neg hopaque, Uri.mk.injEq] at hstored
    rw [Uri.mk.injEq]
    exact ⟨rfl, rfl, hstored.2.2.1, rfl⟩

end Inside

/-! ## Walks -/

/-- What a walk finds at an entry, going at most `n` folders deeper. -/
def found? (t : FileTree) (s : Selection) (n : ℕ) (e : FolderEntry) : Option (List Uri) :=
  if e.isFolder then if s.enters e.name then t.collectTo s n e.uri else some []
  else some (if s.accepts e.name then [e.uri] else [])

/-- A walk puts together what it finds at the entries. -/
theorem collectTo_succ (t : FileTree) (s : Selection) (n : ℕ) (folder : Uri) :
    t.collectTo s (n + 1) folder =
      if (t.list folder).all (fun e => (t.found? s n e).isSome) then
        some ((t.list folder).flatMap fun e => (t.found? s n e).getD [])
      else none := by
  have hsteps : (fun (found : List Uri) (e : FolderEntry) =>
      if e.isFolder then
        if s.enters e.name then (t.collectTo s n e.uri).map (found ++ ·) else some found
      else some (if s.accepts e.name then found ++ [e.uri] else found)) =
      fun found e => (t.found? s n e).map (found ++ ·) := by
    funext found e
    rw [found?]
    split
    · split
      · rfl
      · rw [Option.map_some, List.append_nil]
    · split
      · rfl
      · rw [Option.map_some, List.append_nil]
  rw [collectTo, hsteps, foldlM_append, List.nil_append]

theorem collectTo_eq_some_iff {found : List Uri} : t.collectTo s (n + 1) folder = some found ↔
    (∀ e ∈ t.list folder, (t.found? s n e).isSome = true) ∧
      (t.list folder).flatMap (fun e => (t.found? s n e).getD []) = found := by
  rw [collectTo_succ]
  split
  next hall =>
    rw [List.all_eq_true] at hall
    rw [Option.some.injEq, and_iff_right hall]
  next hall =>
    rw [List.all_eq_true] at hall
    exact ⟨nofun, fun h => absurd h.1 hall⟩

/-- **A walk that ends is the same with any larger bound.** -/
theorem collectTo_mono {found : List Uri} {m : ℕ} (h : t.collectTo s n folder = some found)
    (hnm : n ≤ m) : t.collectTo s m folder = some found := by
  induction n generalizing folder found m with
  | zero => cases h
  | succ n ih =>
    obtain ⟨m, rfl⟩ : ∃ k, m = k + 1 := ⟨m - 1, by omega⟩
    rw [collectTo_eq_some_iff] at h ⊢
    obtain ⟨hall, rfl⟩ := h
    have hsame : ∀ e ∈ t.list folder, t.found? s m e = t.found? s n e := by
      intro e he
      have hsome := hall e he
      rw [found?] at hsome
      rw [found?, found?]
      split
      next hfolder =>
        rw [if_pos hfolder] at hsome
        split
        next henters =>
          rw [if_pos henters] at hsome
          obtain ⟨below, hbelow⟩ := Option.isSome_iff_exists.mp hsome
          rw [hbelow, ih hbelow (by omega)]
        next => rfl
      next => rfl
    refine ⟨fun e he => by rw [hsame e he]; exact hall e he, ?_⟩
    exact List.flatMap_congr fun e he => by rw [hsame e he]

/-- **A file that a walk comes to**: every folder on the way is entered, and its
name is accepted. -/
def Wanted (s : Selection) (folder file : Uri) : Prop :=
  ∃ dirs name, Below folder file dirs name ∧
    (∀ dir ∈ dirs, s.enters (String.ofList dir) = true) ∧ s.accepts (String.ofList name) = true

/-- **A walk comes to a folder without a name** and enters it. -/
def Blank (t : FileTree) (s : Selection) (folder : Uri) : Prop :=
  ∃ file ∈ t.files.keys, ∃ above below name, Below folder file (above ++ [] :: below) name ∧
    ∀ dir ∈ above ++ [[]], s.enters (String.ofList dir) = true

section Entries

variable (hregular : t.Regular folder) (hfile : file ∈ t.files.keys)

include hregular hfile

theorem found?_file (hbelow : Below folder file [] name) :
    t.found? s n ⟨file, false⟩ = some (if s.accepts (String.ofList name) then [file] else []) := by
  rw [found?, if_neg Bool.false_ne_true, FolderEntry.name, hbelow.name_eq (hregular.rooted file hfile)]

theorem found?_inside (hbelow : Below folder file (dir :: dirs) name) :
    t.found? s n ⟨inside folder dir, true⟩ =
      if s.enters (String.ofList dir) then t.collectTo s n (inside folder dir) else some [] := by
  rw [found?, if_pos rfl, FolderEntry.name, name_inside hregular hfile hbelow]

end Entries

/-- **A walk that enters a folder without a name never ends**, whatever its
bound. -/
theorem collectTo_of_blank (hregular : t.Regular folder) (h : t.Blank s folder) (n : ℕ) :
    t.collectTo s n folder = none := by
  obtain ⟨file, hfile, above, below, name, hbelow, henters⟩ := h
  induction n generalizing folder above with
  | zero => rfl
  | succ n ih =>
    -- the walk goes on at the first folder on the way
    obtain ⟨dir, dirs, hdirs⟩ := List.exists_cons_of_ne_nil
      (List.append_ne_nil_of_right_ne_nil above (List.cons_ne_nil [] below))
    have hway := hbelow
    rw [hdirs] at hway
    have hinside := regular_inside hregular hfile hway
    have hdeeper : s.enters (String.ofList dir) = true ∧
        t.collectTo s n (inside folder dir) = none := by
      by_cases hdir : dir = []
      · refine ⟨henters dir (by rw [hdir]; simp), ih hinside above ?_ henters⟩
        rw [below_inside_iff hregular hfile hway, if_pos hdir]
        exact hbelow
      · cases above with
        | nil => exact absurd (List.cons.inj hdirs).1.symm hdir
        | cons dir' above =>
          obtain ⟨rfl, rfl⟩ := List.cons.inj hdirs
          rw [List.cons_append, List.forall_mem_cons] at henters
          refine ⟨henters.1, ih hinside above ?_ henters.2⟩
          rw [below_inside_iff hregular hfile hway, if_neg hdir]
          exact hbelow
    have hnone : t.found? s n ⟨inside folder dir, true⟩ = none := by
      rw [found?_inside hregular hfile hway, if_pos hdeeper.1, hdeeper.2]
    rw [collectTo_succ, if_neg]
    rw [List.all_eq_true]
    intro hall
    have hsome := hall _ (mem_list.mpr ⟨file, hfile, hway.entryOf?_cons⟩)
    rw [hnone] at hsome
    cases hsome

/-- Below a folder that is entered, a folder without a name is entered only if
one is from above. -/
theorem not_blank_inside (hregular : t.Regular folder) (hfile : file ∈ t.files.keys)
    (hbelow : Below folder file (dir :: dirs) name) (henters : s.enters (String.ofList dir) = true)
    (h : ¬ t.Blank s folder) : dir ≠ [] ∧ ¬ t.Blank s (inside folder dir) := by
  have hdir : dir ≠ [] := by
    rintro rfl
    exact h ⟨file, hfile, [], dirs, name, hbelow, by simpa using henters⟩
  refine ⟨hdir, ?_⟩
  rintro ⟨file', hfile', above, below, name', hbelow', henters'⟩
  rw [below_inside_iff hregular hfile hbelow, if_neg hdir] at hbelow'
  exact h ⟨file', hfile', dir :: above, below, name', hbelow',
    List.forall_mem_cons.mpr ⟨henters, henters'⟩⟩

/-- **A walk that enters no folder without a name ends** with any bound above the
number of folders on the way to each file. -/
theorem isSome_collectTo (hregular : t.Regular folder) (h : ¬ t.Blank s folder)
    (hn : ∀ file ∈ t.files.keys, ∀ dirs name, Below folder file dirs name → dirs.length < n)
    (hpos : 0 < n) : (t.collectTo s n folder).isSome = true := by
  induction n generalizing folder with
  | zero => omega
  | succ n ih =>
    rw [collectTo_succ, if_pos, Option.isSome_some]
    rw [List.all_eq_true]
    intro e he
    obtain ⟨file, hfile, name, ⟨hbelow, rfl⟩ | ⟨dir, dirs, hbelow, rfl⟩⟩ := entry_cases he
    · rw [found?_file hregular hfile hbelow, Option.isSome_some]
    · rw [found?_inside hregular hfile hbelow]
      split
      next henters =>
        obtain ⟨hdir, hblank⟩ := not_blank_inside hregular hfile hbelow henters h
        have hlength := hn file hfile _ name hbelow
        rw [List.length_cons] at hlength
        refine ih (regular_inside hregular hfile hbelow) hblank ?_ (by omega)
        intro file' hfile' dirs' name' hbelow'
        rw [below_inside_iff hregular hfile hbelow, if_neg hdir] at hbelow'
        have hlength' := hn file' hfile' _ name' hbelow'
        rw [List.length_cons] at hlength'
        omega
      next => rfl

/-- What is wanted below a folder in a folder. -/
theorem wanted_inside_iff (hregular : t.Regular folder) (hfile : file ∈ t.files.keys)
    (hbelow : Below folder file (dir :: dirs) name) (hdir : dir ≠ [])
    (henters : s.enters (String.ofList dir) = true) {uri : Uri} (huri : uri ∈ t.files.keys) :
    Wanted s (inside folder dir) uri ↔
      Wanted s folder uri ∧ entryOf? folder uri = some ⟨inside folder dir, true⟩ := by
  constructor
  · rintro ⟨dirs', name', hbelow', hall, haccepts⟩
    rw [below_inside_iff hregular hfile hbelow, if_neg hdir] at hbelow'
    exact ⟨⟨dir :: dirs', name', hbelow', List.forall_mem_cons.mpr ⟨henters, hall⟩, haccepts⟩,
      hbelow'.entryOf?_cons⟩
  · rintro ⟨⟨dirs', name', hbelow', hall, haccepts⟩, hentry⟩
    obtain ⟨rest, rfl⟩ := exists_dirs_of_inside hregular hfile hbelow huri hbelow' hentry
    refine ⟨rest, name', ?_, (List.forall_mem_cons.mp hall).2, haccepts⟩
    rw [below_inside_iff hregular hfile hbelow, if_neg hdir]
    exact hbelow'

/-- **A walk finds at an entry**, each once, the files that are wanted and show
this of themselves. -/
theorem found?_spec (hregular : t.Regular folder) (h : ¬ t.Blank s folder) (he : e ∈ t.list folder)
    (hdeeper : ∀ dir, t.Regular (inside folder dir) → ¬ t.Blank s (inside folder dir) →
      ∀ found, t.collectTo s n (inside folder dir) = some found →
        found.Nodup ∧ ∀ uri, uri ∈ found ↔ uri ∈ t.files.keys ∧ Wanted s (inside folder dir) uri)
    {found : List Uri} (hfound : t.found? s n e = some found) :
    found.Nodup ∧ ∀ uri, uri ∈ found ↔
      uri ∈ t.files.keys ∧ Wanted s folder uri ∧ entryOf? folder uri = some e := by
  -- an entry is a file of the folder, or a folder that holds one
  obtain ⟨file, hfile, name, ⟨hbelow, rfl⟩ | ⟨dir, dirs, hbelow, rfl⟩⟩ := entry_cases he
  · rw [found?_file hregular hfile hbelow, Option.some.injEq] at hfound
    subst hfound
    refine ⟨by split <;> simp, fun uri => ⟨fun hmem => ?_, ?_⟩⟩
    · split at hmem
      next haccepts =>
        obtain rfl := List.mem_singleton.mp hmem
        exact ⟨hfile, ⟨[], name, hbelow, nofun, haccepts⟩, hbelow.entryOf?_nil⟩
      next => cases hmem
    · rintro ⟨huri, ⟨dirs', name', hbelow', -, haccepts⟩, hentry⟩
      obtain ⟨rfl, rfl⟩ := hbelow'.eq_of_entryOf?_file hentry
      have hrooted := hregular.rooted uri huri
      rw [← hbelow'.name_eq hrooted, hbelow.name_eq hrooted] at haccepts
      rw [if_pos haccepts]
      exact List.mem_singleton_self uri
  · rw [found?_inside hregular hfile hbelow] at hfound
    split at hfound
    next henters =>
      obtain ⟨hdir, hblank⟩ := not_blank_inside hregular hfile hbelow henters h
      obtain ⟨hnodup, hmem⟩ := hdeeper dir (regular_inside hregular hfile hbelow) hblank found hfound
      refine ⟨hnodup, fun uri => ?_⟩
      rw [hmem uri]
      exact and_congr_right fun huri => wanted_inside_iff hregular hfile hbelow hdir henters huri
    next hpassed =>
      -- what is behind a folder that is not entered is not wanted
      obtain rfl := Option.some.inj hfound
      refine ⟨List.nodup_nil, fun uri => ⟨nofun, ?_⟩⟩
      rintro ⟨huri, ⟨dirs', name', hbelow', hall, -⟩, hentry⟩
      obtain ⟨rest, rfl⟩ := exists_dirs_of_inside hregular hfile hbelow huri hbelow' hentry
      exact absurd (List.forall_mem_cons.mp hall).1 hpassed

/-- **A walk finds what is wanted, each file once.** What it finds at different
entries is different, since a file shows one thing of itself. -/
theorem collectTo_spec (hregular : t.Regular folder) (h : ¬ t.Blank s folder) {found : List Uri}
    (hfound : t.collectTo s n folder = some found) :
    found.Nodup ∧ ∀ uri, uri ∈ found ↔ uri ∈ t.files.keys ∧ Wanted s folder uri := by
  induction n generalizing folder found with
  | zero => cases hfound
  | succ n ih =>
    -- the folders of the entries lie one deeper, and so does the bound
    obtain ⟨hall, rfl⟩ := collectTo_eq_some_iff.mp hfound
    have hparts : ∀ e ∈ t.list folder, ((t.found? s n e).getD []).Nodup ∧
        ∀ uri, uri ∈ (t.found? s n e).getD [] ↔
          uri ∈ t.files.keys ∧ Wanted s folder uri ∧ entryOf? folder uri = some e := by
      intro e he
      obtain ⟨part, hpart⟩ := Option.isSome_iff_exists.mp (hall e he)
      rw [hpart, Option.getD_some]
      exact found?_spec hregular h he (fun _ hregular' hblank _ => ih hregular' hblank) hpart
    constructor
    · rw [List.nodup_flatMap]
      refine ⟨fun e he => (hparts e he).1, (t.nodup_list folder).pairwise_of_forall_ne ?_⟩
      intro e he e' he' hne uri hmem hmem'
      obtain ⟨-, -, hentry⟩ := ((hparts e he).2 uri).mp hmem
      obtain ⟨-, -, hentry'⟩ := ((hparts e' he').2 uri).mp hmem'
      rw [hentry, Option.some.injEq] at hentry'
      exact hne hentry'
    · intro uri
      rw [List.mem_flatMap]
      constructor
      · rintro ⟨e, he, hmem⟩
        obtain ⟨huri, hwanted, -⟩ := ((hparts e he).2 uri).mp hmem
        exact ⟨huri, hwanted⟩
      · rintro ⟨huri, dirs, name, hbelow, hwanted⟩
        obtain ⟨e, hentry⟩ := hbelow.exists_entryOf?
        have he : e ∈ t.list folder := mem_list.mpr ⟨uri, huri, hentry⟩
        exact ⟨e, he, ((hparts e he).2 uri).mpr ⟨huri, ⟨dirs, name, hbelow, hwanted⟩, hentry⟩⟩

/-- No file lies deeper than its path has slashes. -/
theorem Below.length_le (h : Below folder file dirs name) (hfile : file ∈ t.files.keys) :
    dirs.length ≤ t.depth := by
  have hcount : dirs.length ≤ file.path.toList.count '/' := by
    rw [h.path, List.count_append, List.count_append]
    have hdirs : dirs.length ≤ (dirs.flatMap (· ++ ['/'])).count '/' := by
      clear h
      induction dirs with
      | nil => exact Nat.zero_le _
      | cons dir dirs ih =>
        rw [List.flatMap_cons, List.count_append, List.count_append, List.length_cons]
        simp only [List.count_singleton_self]
        omega
    omega
  exact hcount.trans (le_foldl_max 0 (.inr (List.mem_map_of_mem hfile)))

/-- **A folder is loaded completely, or never.** Loading ends, with any larger
bound the same, unless a folder without a name is entered on the way; no bound
is enough then. If it ends, it has found, each once, the files of the same
scheme and host that lie below the folder, in folders that are all entered, with
names that are accepted. -/
theorem collect?_finds (t : FileTree) (s : Selection) (folder : Uri) (hregular : t.Regular folder) :
    (t.collect? s folder = none ↔ t.Blank s folder) ∧
    (t.Blank s folder → ∀ n, t.collectTo s n folder = none) ∧
    ∀ found, t.collect? s folder = some found →
      (∀ n, t.depth + 2 ≤ n → t.collectTo s n folder = some found) ∧ found.Nodup ∧
      ∀ uri, uri ∈ found ↔ uri ∈ t.files.keys ∧ Wanted s folder uri := by
  have hblank : t.collect? s folder = none ↔ t.Blank s folder := by
    constructor
    · intro hnone
      by_contra h
      have hends := isSome_collectTo (n := t.depth + 2) hregular h (fun file hfile dirs name hbelow =>
        Nat.lt_of_le_of_lt (hbelow.length_le hfile) (by omega)) (by omega)
      rw [collect?] at hnone
      rw [hnone] at hends
      cases hends
    · exact fun h => collectTo_of_blank hregular h _
  refine ⟨hblank, collectTo_of_blank hregular, fun found hfound => ?_⟩
  have hnot : ¬ t.Blank s folder := by
    rw [← hblank, hfound]
    nofun
  exact ⟨fun n hn => collectTo_mono hfound hn, collectTo_spec hregular hnot hfound⟩

end FileTree

/-! ## A folder without a name -/

namespace Unnamed

/-- A folder. -/
def folder : Uri := ⟨"mem", some .blank, "/w", ""⟩

/-- A file in it. -/
def beside : Uri := ⟨"mem", some .blank, "/w/b.dmodel", ""⟩

/-- A file in a folder in it that has no name. -/
def deeper : Uri := ⟨"mem", some .blank, "/w//a.dmodel", ""⟩

/-- The two files. -/
def tree : FileTree := ⟨⟨[(deeper, ""), (beside, "")]⟩⟩

/-- The files that are loaded. -/
def selection : FileTree.Selection := ⟨[".dmodel"], []⟩

/-- The same, with folders without a name passed over. -/
def careful : FileTree.Selection := ⟨[".dmodel"], [""]⟩

theorem regular_tree : tree.Regular folder := by
  have hstored : ∀ file ∈ tree.files.keys, ∀ above ∈ file.path.toList.inits,
      folder.opening <+: above →
        folder.withPath above = { folder with path := String.ofList above } := by
    decide
  refine ⟨by decide, fun file hfile _ _ above rest hpath habove => ?_⟩
  exact hstored file hfile above ((List.mem_inits _ _).mpr ⟨_, hpath.symm⟩) habove

theorem below_deeper : FileTree.Below folder deeper [[]] "a.dmodel".toList :=
  ⟨by decide, by decide, by decide, by decide, by decide⟩

theorem below_beside : FileTree.Below folder beside [] "b.dmodel".toList :=
  ⟨by decide, by decide, by decide, nofun, by decide⟩

/-- Passing over folders without a name, a walk enters none. -/
theorem not_blank_careful : ¬ tree.Blank careful folder := by
  rintro ⟨_, -, above, _, _, -, henters⟩
  have hempty := henters [] (List.mem_append_right above List.mem_cons_self)
  revert hempty
  decide

end Unnamed

open Unnamed in
/-- The folder is loaded if folders without a name are passed over; else no
bound is enough. -/
theorem FileTree.collect?_finds_unnamed :
    tree.collect? selection folder = none ∧ (∀ n, tree.collectTo selection n folder = none) ∧
    ∃ found, tree.collect? careful folder = some found ∧ found.Nodup ∧ beside ∈ found ∧
      deeper ∉ found := by
  obtain ⟨hloaded, hnever, -⟩ := FileTree.collect?_finds tree selection folder regular_tree
  obtain ⟨hcareful, -, hfinds⟩ := FileTree.collect?_finds tree careful folder regular_tree
  have hblank : tree.Blank selection folder :=
    ⟨deeper, by decide, [], [], _, below_deeper, by decide⟩
  obtain ⟨found, hfound⟩ := Option.ne_none_iff_exists'.mp (mt hcareful.mp not_blank_careful)
  obtain ⟨-, hnodup, hmem⟩ := hfinds found hfound
  refine ⟨hloaded.mpr hblank, hnever hblank, found, hfound, hnodup, ?_, fun hdeeper => ?_⟩
  · exact (hmem beside).mpr ⟨by decide, [], _, below_beside, nofun, by decide +kernel⟩
  · -- the only way to the file is through the folder without a name
    obtain ⟨hfile, dirs, name, hbelow, henters, -⟩ := (hmem deeper).mp hdeeper
    obtain ⟨rest, rfl⟩ := FileTree.exists_dirs_of_inside regular_tree hfile below_deeper hfile hbelow
      below_deeper.entryOf?_cons
    have hempty := henters [] List.mem_cons_self
    revert hempty
    decide

end Workbench
