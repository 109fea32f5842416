import Mathlib.Data.List.Infix
import Mathlib.Data.List.TakeWhile
import ToolAuthoring.Files.Store
import ToolAuthoring.KeyMap.Lemmas

/-!
# Writing files

Where a path leads depends on which folders there are, and writing a file makes no folder: a path
is followed through folders to the last one, and the file lies in that.  So all paths lead where
they led before, and a text that is written is read again until something else is written to its
place.  Two paths that differ in nothing but the name at their end lead to different places.

* `FileStore.isFolder_of_inside`, `FileStore.isFolder_put`: the folders of a store.
* `FileStore.written_of_locate`: **what a write changes**; `FileStore.Written.read`: it is read
  again.
* `Beside`: paths into the same folder; `Beside.eq_of_locate`: they lead to one place only if they
  are equal; `beside_replaceExtension`: another extension leaves the folder.
-/

namespace ToolAuthoring

/-! ### Entering a folder -/

namespace Location

theorem leave_prefix_or (here : Location) : here.leave <+: here ∨ here.leave = here ++ [".."] := by
  unfold leave
  split
  · exact .inr rfl
  · exact .inr rfl
  · exact .inl (List.prefix_refl here)
  · exact .inl (List.dropLast_prefix here)

/-- A step leads further by its own name, or nowhere but back. -/
theorem enter_prefix_or (here : Location) (step : String) :
    here.enter step <+: here ∨ here.enter step = here ++ [step] := by
  unfold enter
  split
  · exact .inl (List.prefix_refl here)
  · split
    · rename_i hs
      rw [hs]
      exact here.leave_prefix_or
    · exact .inr rfl

end Location

namespace FileStore

variable {store : FileStore}

/-! ### Folders -/

theorem isFolder_iff {here : Location} : store.isFolder here = true ↔
    here = Location.root ∨ (∀ step ∈ here, step = "..") ∨ (∃ l ∈ store.folders, here <+: l) ∨
      ∃ l ∈ store.occupied, here <+: l ∧ l ≠ here := by
  simp [isFolder, or_assoc]

theorem isFolder_of_inside {here there : Location} (hp : here <+: there)
    (hf : store.isFolder there = true) : store.isFolder here = true := by
  rw [isFolder_iff] at hf ⊢
  rcases hf with rfl | hall | ⟨l, hl, hpl⟩ | ⟨l, hl, hpl, hne⟩
  · rcases List.prefix_cons_iff.1 hp with rfl | ⟨rest, rfl, hrest⟩
    · exact .inr (.inl (by simp))
    · rw [List.prefix_nil.1 hrest]
      exact .inl rfl
  · exact .inr (.inl fun step hs => hall step (hp.subset hs))
  · exact .inr (.inr (.inl ⟨l, hl, hp.trans hpl⟩))
  · refine .inr (.inr (.inr ⟨l, hl, hp.trans hpl, ?_⟩))
    rintro rfl
    exact hne (hpl.eq_of_length_le hp.length_le).symm

/-- The store with a text at a location. -/
def put (store : FileStore) (l : Location) (s : String) : FileStore :=
  { store with files := store.files.insert l (.text s) }

/-- A file in a folder makes no other folder. -/
theorem isFolder_put {folder : Location} (hf : store.isFolder folder = true) (name s : String)
    (here : Location) : (store.put (folder ++ [name]) s).isFolder here = store.isFolder here := by
  have hocc (l : Location) : l ∈ (store.put (folder ++ [name]) s).occupied ↔
      l = folder ++ [name] ∨ l ∈ store.occupied := by
    simp [occupied, put, KeyMap.mem_keys_insert, or_assoc]
  rw [Bool.eq_iff_iff, isFolder_iff, isFolder_iff]
  constructor
  · rintro (h | h | h | ⟨l, hl, hp, hne⟩)
    · exact .inl h
    · exact .inr (.inl h)
    · exact .inr (.inr (.inl h))
    · rcases (hocc l).1 hl with rfl | hl
      · have hp' : here <+: folder := by
          rcases List.prefix_concat_iff.1 hp with heq | hp'
          · exact absurd heq.symm hne
          · exact hp'
        exact isFolder_iff.1 (isFolder_of_inside hp' hf)
      · exact .inr (.inr (.inr ⟨l, hl, hp, hne⟩))
  · rintro (h | h | h | ⟨l, hl, hp, hne⟩)
    · exact .inl h
    · exact .inr (.inl h)
    · exact .inr (.inr (.inl h))
    · exact .inr (.inr (.inr ⟨l, (hocc l).2 (.inr hl), hp, hne⟩))

/-! ### Following a path -/

/-- Where a path leads depends on the folders alone. -/
theorem follow_congr {store' : FileStore}
    (hf : ∀ here, store'.isFolder here = store.isFolder here) {steps : List String}
    {here l : Location} (hl : store.follow here steps = .ok l) :
    store'.follow here steps = .ok l := by
  induction steps generalizing here with
  | nil => exact hl
  | cons step steps ih =>
    unfold follow at hl ⊢
    rw [hf]
    split at hl
    · rename_i hh
      rw [if_pos hh]
      split at hl
      · cases hl
      · rename_i hn
        rw [if_neg hn]
        exact ih hl
    · split at hl <;> cases hl

theorem locate_eq_ok_iff {path : String} {l : Location} : store.locate path = .ok l ↔
    ¬ Location.pathLimit < path.utf8ByteSize ∧
      store.follow (Location.start path) (Location.steps path) = .ok l ∧
        store.isFolder l = false := by
  unfold locate
  by_cases hlen : Location.pathLimit < path.utf8ByteSize
  · simp [hlen, bind, Except.bind, throw, throwThe, MonadExceptOf.throw]
  · cases hfo : store.follow (Location.start path) (Location.steps path) with
    | error e => simp [hlen, bind, Except.bind]
    | ok l' =>
      cases hd : store.isFolder l' <;>
        simp [hlen, hd, bind, Except.bind, pure, Except.pure, throw, throwThe,
          MonadExceptOf.throw] <;> grind

theorem locate_congr {store' : FileStore}
    (hf : ∀ here, store'.isFolder here = store.isFolder here) {path : String} {l : Location} :
    store'.locate path = .ok l ↔ store.locate path = .ok l := by
  rw [locate_eq_ok_iff, locate_eq_ok_iff, hf]
  exact and_congr_right fun _ => and_congr_left fun _ =>
    ⟨follow_congr fun here => (hf here).symm, follow_congr hf⟩

/-- The last step of a path is taken in a folder. -/
theorem follow_concat {steps : List String} {step : String} {here l : Location}
    (hl : store.follow here (steps ++ [step]) = .ok l) : ∃ folder,
      store.follow here steps = .ok folder ∧ store.isFolder folder = true ∧
        l = folder.enter step := by
  induction steps generalizing here with
  | nil =>
    rw [List.nil_append, follow] at hl
    split at hl
    · rename_i hh
      split at hl
      · cases hl
      · cases hl
        exact ⟨here, rfl, hh, rfl⟩
    · split at hl <;> cases hl
  | cons first steps ih =>
    rw [List.cons_append, follow] at hl
    rw [follow]
    split at hl
    · rename_i hh
      split at hl
      · cases hl
      · rename_i hn
        rw [if_pos hh, if_neg hn]
        exact ih hl
    · split at hl <;> cases hl

/-- A file lies in the folder to which the steps before the last one lead, under the name that is
the last one. -/
theorem exists_folder_of_locate {path name : String} {steps : List String} {l : Location}
    (hl : store.locate path = .ok l) (hs : Location.steps path = steps ++ [name]) : ∃ folder,
      store.follow (Location.start path) steps = .ok folder ∧ store.isFolder folder = true ∧
        l = folder ++ [name] := by
  obtain ⟨-, hfo, hno⟩ := locate_eq_ok_iff.1 hl
  rw [hs] at hfo
  obtain ⟨folder, hfolder, hf, rfl⟩ := follow_concat hfo
  refine ⟨folder, hfolder, hf, ?_⟩
  rcases folder.enter_prefix_or name with hp | heq
  · rw [isFolder_of_inside hp hf] at hno
    cases hno
  · exact heq

/-! ### What a write changes -/

/-- A text is written to the file at a path.  All other files stay, and every path leads where it
led before. -/
structure Written (store : FileStore) (path s : String) (l : Location) (after : FileStore) :
    Prop where
  located : store.locate path = .ok l
  content : after.files.get? l = some (.text s)
  others : ∀ m, m ≠ l → after.files.get? m = store.files.get? m
  locate : ∀ other m, after.locate other = .ok m ↔ store.locate other = .ok m
  folders : after.folders = store.folders
  devices : after.devices = store.devices

variable {after : FileStore} {path s : String} {l : Location}

/-- **What a write to a file changes.** -/
theorem written_of_locate (hl : store.locate path = .ok l) (hd : store.devices.lookup l = none)
    (s : String) : ∃ after, store.write path s = .ok after ∧ store.Written path s l after := by
  have hw : store.write path s = .ok (store.put l s) := by
    simp only [write, hl, hd, bind, Except.bind]
    rfl
  have hne : Location.steps path ≠ [] := by simp [Location.steps]
  obtain ⟨folder, -, hf, rfl⟩ :=
    exists_folder_of_locate hl (List.dropLast_append_getLast hne).symm
  exact ⟨_, hw, hl, KeyMap.get?_insert_self .., fun m hm => KeyMap.get?_insert_of_ne _ hm _,
    fun _ _ => locate_congr (isFolder_put hf _ s), rfl, rfl⟩

/-- What a write changes where there is no device. -/
theorem written (hd : store.devices = []) (hw : store.write path s = .ok after) :
    ∃ l, store.Written path s l after := by
  cases hl : store.locate path with
  | error e =>
    simp only [write, hl, bind, Except.bind] at hw
    cases hw
  | ok l =>
    obtain ⟨after', hw', hwritten⟩ := written_of_locate hl (by rw [hd, List.lookup_nil]) s
    cases hw'.symm.trans hw
    exact ⟨l, hwritten⟩

theorem read_of_file (hl : store.locate path = .ok l) (hd : store.devices.lookup l = none)
    (hs : store.files.get? l = some (.text s)) : store.read path = .ok s := by
  simp only [read, hl, hd, hs, bind, Except.bind]
  rfl

theorem read_of_get? (hd : store.devices = []) (hl : store.locate path = .ok l)
    (hs : store.files.get? l = some (.text s)) : store.read path = .ok s :=
  read_of_file hl (by rw [hd, List.lookup_nil]) hs

/-- A text that is read is that of a file, or it is empty. -/
theorem file_of_read (h : store.read path = .ok s) (hs : s ≠ "") :
    ∃ l, store.locate path = .ok l ∧ store.devices.lookup l = none := by
  cases hl : store.locate path with
  | error e =>
    simp only [read, hl, bind, Except.bind] at h
    cases h
  | ok l =>
    refine ⟨l, rfl, ?_⟩
    simp only [read, hl, bind, Except.bind] at h
    cases hd : store.devices.lookup l with
    | none => rfl
    | some device =>
      cases device with
      | null =>
        rw [hd] at h
        cases h
        exact absurd rfl hs
      | full =>
        rw [hd] at h
        cases h

/-- What is written is read again. -/
theorem Written.read (hw : store.Written path s l after) (hd : store.devices = []) :
    after.read path = .ok s :=
  read_of_get? (hw.devices.trans hd) ((hw.locate path l).2 hw.located) hw.content

/-- What is written to a file is read again, whatever devices there are. -/
theorem Written.read_file (hw : store.Written path s l after)
    (hd : store.devices.lookup l = none) : after.read path = .ok s :=
  read_of_file ((hw.locate path l).2 hw.located) (hw.devices ▸ hd) hw.content

end FileStore

/-! ### Paths into the same folder -/

/-- Two paths that differ in nothing but the name at their end, behind the last slash. -/
structure Beside (p q : String) : Prop where
  names : ∃ folder name name' : List Char, (folder = [] ∨ ∃ cs, folder = cs ++ ['/']) ∧
    '/' ∉ name ∧ '/' ∉ name' ∧ p = String.ofList (folder ++ name) ∧
      q = String.ofList (folder ++ name')

/-- Paths into the same folder begin in the same way, and their steps differ at most in the last
one, which is the name. -/
theorem Location.exists_steps {folder : List Char}
    (hf : folder = [] ∨ ∃ cs, folder = cs ++ ['/']) : ∃ (here : Location) (steps : List String),
      ∀ name, '/' ∉ name → start (String.ofList (folder ++ name)) = here ∧
        Location.steps (String.ofList (folder ++ name)) = steps ++ [String.ofList name] := by
  rcases hf with rfl | ⟨cs, rfl⟩
  · refine ⟨working, [], fun name hn => ⟨?_, ?_⟩⟩
    · rw [start, if_neg]
      intro hh
      exact hn (List.mem_of_mem_head? (by simpa using hh))
    · simp [Location.steps, List.splitOn_eq_singleton hn]
  · refine ⟨start (String.ofList (cs ++ ['/'])), (cs.splitOn '/').map String.ofList,
      fun name hn => ⟨?_, ?_⟩⟩
    · rw [start, start]
      cases cs <;> simp
    · simp [Location.steps, List.splitOn_append_cons_self, List.splitOn_eq_singleton hn]

namespace Beside

variable {store : FileStore} {p q : String} {l m : Location}

/-- Two files at the ends of such paths lie in the same folder. -/
theorem exists_folder (hb : Beside p q) (hp : store.locate p = .ok l)
    (hq : store.locate q = .ok m) : ∃ (folder : Location) (name name' : String),
      store.isFolder folder = true ∧ l = folder ++ [name] ∧ m = folder ++ [name'] ∧
        (name = name' → p = q) := by
  obtain ⟨folder, name, name', hf, hn, hn', rfl, rfl⟩ := hb.names
  obtain ⟨here, steps, hsteps⟩ := Location.exists_steps hf
  obtain ⟨there, hthere, hfolder, rfl⟩ := FileStore.exists_folder_of_locate hp (hsteps name hn).2
  obtain ⟨there', hthere', -, rfl⟩ := FileStore.exists_folder_of_locate hq (hsteps name' hn').2
  rw [(hsteps name hn).1] at hthere
  rw [(hsteps name' hn').1] at hthere'
  cases hthere.symm.trans hthere'
  refine ⟨there, _, _, hfolder, rfl, rfl, fun heq => ?_⟩
  rw [String.ofList_inj.1 heq]

/-- They lead to one file only if they are equal. -/
theorem eq_of_locate (hb : Beside p q) (hp : store.locate p = .ok l)
    (hq : store.locate q = .ok l) : p = q := by
  obtain ⟨folder, name, name', -, hl, hl', heq⟩ := hb.exists_folder hp hq
  rw [hl] at hl'
  exact heq (by simpa using hl')

end Beside

theorem splitFolder_append (path : List Char) :
    (splitFolder path).1 ++ (splitFolder path).2 = path := by
  rw [splitFolder, ← List.reverse_append, List.takeWhile_append_dropWhile, List.reverse_reverse]

theorem slash_not_mem_name (path : List Char) : '/' ∉ (splitFolder path).2 := by
  intro hs
  have hall := List.mem_takeWhile_imp (List.mem_reverse.1 hs)
  simp at hall

theorem folder_eq_nil_or (path : List Char) :
    (splitFolder path).1 = [] ∨ ∃ cs, (splitFolder path).1 = cs ++ ['/'] := by
  unfold splitFolder
  cases hd : path.reverse.dropWhile (· ≠ '/') with
  | nil => exact .inl rfl
  | cons c cs =>
    have hne : path.reverse.dropWhile (· ≠ '/') ≠ [] := by
      rw [hd]
      nofun
    have hc := List.head_dropWhile_not (· ≠ '/') hne
    simp only [hd, List.head_cons, decide_eq_false_iff_not, not_not] at hc
    exact .inr ⟨cs.reverse, by rw [List.reverse_cons, hc]⟩

theorem stem_subset (name : List Char) : stem name ⊆ name := by
  unfold stem
  split
  · exact List.Subset.refl name
  · intro c hc
    exact List.mem_reverse.1
      ((List.dropWhile_sublist _).subset (List.mem_of_mem_tail (List.mem_reverse.1 hc)))

/-- Another extension leaves the folder. -/
theorem beside_replaceExtension {path extension : String} (hx : '/' ∉ extension.toList) :
    Beside path (replaceExtension path extension) := by
  have hn := slash_not_mem_name path.toList
  have hpath : path =
      String.ofList ((splitFolder path.toList).1 ++ (splitFolder path.toList).2) := by
    rw [splitFolder_append, String.ofList_toList]
  refine ⟨(splitFolder path.toList).1, (splitFolder path.toList).2, ?_⟩
  by_cases hs : stem (splitFolder path.toList).2 = ['.']
  · refine ⟨['.', '.'], folder_eq_nil_or _, hn, by decide, hpath, ?_⟩
    simp [replaceExtension, hs]
  · refine ⟨stem (splitFolder path.toList).2 ++ '.' :: extension.toList, folder_eq_nil_or _, hn, ?_,
      hpath, ?_⟩
    · have hstem : '/' ∉ stem (splitFolder path.toList).2 := fun h => hn (stem_subset _ h)
      simp [hx, hstem]
    · simp [replaceExtension, String.append_assoc]

end ToolAuthoring
