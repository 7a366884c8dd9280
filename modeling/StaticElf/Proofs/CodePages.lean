/-
**The page of code in a running process.**

The code of a compiled program lies in one page of its file. The process that runs it sees that page as the
file has it, can run nothing else, and keeps it so when bytes are put into memory behind it.

* `Kernel.Keeps` — what an action keeps, whatever it comes to.
* `Space.HasCode` — an address space in which one page can be run, the first that is mapped.
* `World.ShowsPage` — a world whose running thread sees a page of code there.
* `Kernel.keeps_copyOut` — it stays when bytes are put behind it.
* `World.ShowsPage.holdsCode` — code in that page can be run.
-/

import StaticElf.Linux.Start
import StaticElf.Proofs.Contents
import StaticElf.Proofs.Processors

namespace StaticElf.Linux

/-! ### What actions keep -/

/-- A fault of memory or of an instruction. -/
def Stop.IsFault (stop : Stop) : Prop := ∃ info, stop = .fault info

namespace Kernel

/-- **An action keeps a property of the world**, whatever it comes to: a stop of some kinds, or a result
with some property. -/
def Keeps {α : Type} (kept : World → Prop) (stopped : Stop → Prop) (returned : α → Prop)
    (action : Kernel α) : Prop :=
  ∀ world, kept world → kept (action.run world).2
    ∧ match (action.run world).1 with
      | .ok value => returned value
      | .error stop => stopped stop

theorem run_tryCatch {α : Type} (action : Kernel α) (handler : Stop → Kernel α) (world : World) :
    (tryCatch action handler).run world
      = match action.run world with
        | (.ok value, later) => (.ok value, later)
        | (.error stop, later) => (handler stop).run later := by
  show (ExceptT.tryCatch action handler).run world = _
  rw [ExceptT.tryCatch, ExceptT.run_mk]
  show StateT.bind action.run _ world = _
  rw [StateT.bind]
  rcases action.run world with ⟨stop | value, later⟩
  · rfl
  · rfl

theorem run_map {α β : Type} (f : α → β) (action : Kernel α) (world : World) :
    (f <$> action).run world
      = match action.run world with
        | (.ok value, later) => (.ok (f value), later)
        | (.error stop, later) => (.error stop, later) := by
  show (ExceptT.map f action).run world = _
  rw [ExceptT.map, ExceptT.run_mk]
  show StateT.bind action.run _ world = _
  rw [StateT.bind]
  rcases action.run world with ⟨stop | value, later⟩
  · rfl
  · rfl

section Keeping

variable {α β : Type} {kept : World → Prop} {stopped : Stop → Prop} {returned : α → Prop}
  {after : β → Prop}

theorem keeps_pure {value : α} (holds : returned value) :
    Keeps kept stopped returned (pure value : Kernel α) :=
  fun _ before => ⟨before, holds⟩

theorem keeps_throw {stop : Stop} (holds : stopped stop) :
    Keeps kept stopped returned (throw stop : Kernel α) :=
  fun _ before => ⟨before, holds⟩

theorem keeps_get : Keeps kept stopped kept (get : Kernel World) :=
  fun _ before => ⟨before, before⟩

theorem Keeps.bind {action : Kernel α} {next : α → Kernel β}
    (first : Keeps kept stopped returned action)
    (second : ∀ value, returned value → Keeps kept stopped after (next value)) :
    Keeps kept stopped after (action >>= next) := by
  intro world before
  have done := first world before
  rw [run_bind]
  rcases ran : action.run world with ⟨stop | value, later⟩
  · rw [ran] at done
    exact done
  · rw [ran] at done
    exact second value done.2 later done.1

theorem Keeps.map {action : Kernel α} {f : α → β} (keeps : Keeps kept stopped returned action)
    (implied : ∀ value, returned value → after (f value)) :
    Keeps kept stopped after (f <$> action) := by
  intro world before
  have done := keeps world before
  rw [run_map]
  rcases ran : action.run world with ⟨stop | value, later⟩
  · rw [ran] at done
    exact done
  · rw [ran] at done
    exact ⟨done.1, implied value done.2⟩

/-- A fault of memory is what a system call tells as a place that cannot be reached. -/
theorem Keeps.reaching {action : Kernel α}
    (keeps : Keeps kept Stop.IsFault returned action) :
    Keeps kept stopped (fun _ => True) (reaching action) := by
  intro world before
  have done := keeps world before
  rw [Kernel.reaching, run_tryCatch, run_map]
  rcases ran : action.run world with ⟨stop | value, later⟩
  · rw [ran] at done
    obtain ⟨stays, info, rfl⟩ := done
    exact ⟨stays, trivial⟩
  · rw [ran] at done
    exact ⟨done.1, trivial⟩

end Keeping

end Kernel

/-! ### Address spaces with one page of code -/

/-- The number of the page that holds the code. -/
def codePage : Nat := 0x401

/-- The mapping of the code: the second page of the file, which can be read and run. -/
def codeMapping : Mapping where
  start := 0x401000
  stop := 0x402000
  access := 5
  source := .content 0 0x1000

theorem codeMapping_start : codeMapping.start = 0x401000 := rfl

theorem codeMapping_stop : codeMapping.stop = 0x402000 := rfl

/-- A mapping behind the code that cannot be run, and is written for its process alone. What grows ends
where the stack does. -/
structure Mapping.IsBehindCode (mapping : Mapping) : Prop where
  behind : codeMapping.stop ≤ mapping.start
  noCode : mapping.access &&& 4 = 0
  notShared : mapping.shared = false
  stack : mapping.growsDown = true → mapping.stop = stackTop

/-- **An address space in which one page can be run**, the first that is mapped. Nothing was written in
it. -/
structure Space.HasCode (space : Space) : Prop where
  mappings : ∃ others, space.mappings = codeMapping :: others
    ∧ ∀ mapping ∈ others, mapping.IsBehindCode
  unwritten : space.pages[codePage]? = none

/-- Mappings that continue each other differ only in their place and in what they show. -/
theorem Mapping.eq_of_continues {next mapping : Mapping} (continues : next.continues mapping = true) :
    { next with start := mapping.start, stop := mapping.stop, source := mapping.source } = mapping := by
  rw [Mapping.continues, Bool.and_eq_true, Bool.and_eq_true, Bool.and_eq_true, decide_eq_true_eq,
    decide_eq_true_eq] at continues
  exact continues.1.1.2

namespace Space

/-! The changes by which a space is made. -/

section Changes

variable {mapping : Mapping} {mappings : List Mapping}

theorem isBehindCode_joined (behind : ∀ mapping ∈ mappings, mapping.IsBehindCode) :
    ∀ mapping ∈ joined mappings, mapping.IsBehindCode := by
  induction mappings with
  | nil => exact behind
  | cons first rest ih =>
    obtain ⟨here, later⟩ := List.forall_mem_cons.mp behind
    have later := ih later
    rw [joined]
    cases joins : joined rest with
    | nil => exact List.forall_mem_cons.mpr ⟨here, joins ▸ later⟩
    | cons next others =>
      rw [joins] at later
      obtain ⟨nextBehind, others⟩ := List.forall_mem_cons.mp later
      dsimp only
      split
      · next continues =>
        have same := congrArg Mapping.growsDown (Mapping.eq_of_continues continues)
        exact List.forall_mem_cons.mpr ⟨⟨here.behind, here.noCode, here.notShared,
          fun grows => nextBehind.stack (same.trans grows)⟩, others⟩
      · exact List.forall_mem_cons.mpr ⟨here, later⟩

/-- The code is joined with nothing. -/
theorem joined_code (behind : ∀ mapping ∈ mappings, mapping.IsBehindCode) :
    joined (codeMapping :: mappings) = codeMapping :: joined mappings := by
  have later := isBehindCode_joined behind
  rw [joined]
  cases joins : joined mappings with
  | nil => rfl
  | cons next others =>
    rw [joins] at later
    have apart : ¬ next.continues codeMapping = true := by
      intro continues
      have access := congrArg Mapping.access (Mapping.eq_of_continues continues)
      have noCode := (later next List.mem_cons_self).noCode
      rw [show next.access = 5 from access] at noCode
      exact absurd noCode (by decide)
    dsimp only
    rw [if_neg apart]

theorem mem_place {other : Mapping} :
    other ∈ place mapping mappings ↔ other = mapping ∨ other ∈ mappings := by
  induction mappings with
  | nil => simp [place]
  | cons first rest ih =>
    rw [place]
    split
    · rw [List.mem_cons]
    · rw [List.mem_cons, ih, List.mem_cons]
      exact or_left_comm

/-- A mapping behind the code is put behind the code. -/
theorem HasCode.insert {space : Space} (hasCode : space.HasCode) (behind : mapping.IsBehindCode) :
    (space.insert mapping).HasCode := by
  obtain ⟨others, whole, othersBehind⟩ := hasCode.mappings
  have placed : ∀ other ∈ place mapping others, other.IsBehindCode := by
    intro other member
    rcases mem_place.mp member with rfl | member
    · exact behind
    · exact othersBehind other member
  have notBefore : ¬ mapping.start < codeMapping.start := by
    have after := behind.behind
    rw [codeMapping_stop] at after
    rw [codeMapping_start]
    omega
  refine ⟨⟨joined (place mapping others), ?_, isBehindCode_joined placed⟩, hasCode.unwritten⟩
  show joined (place mapping space.mappings) = _
  rw [whole, place, if_neg notBefore, joined_code placed]

/-- What is left of a mapping behind the code, when a range right behind the code is taken away. -/
theorem isBehindCode_cut (behind : mapping.IsBehindCode) {stop : Nat}
    {part : Mapping} (left : part ∈ if mapping.meets codeMapping.stop stop
      then mapping.before codeMapping.stop ++ mapping.behind stop else [mapping]) :
    part.IsBehindCode := by
  have nothing : mapping.before codeMapping.stop = [] := if_neg (Nat.not_lt.mpr behind.behind)
  rw [nothing, List.nil_append, Mapping.behind] at left
  split at left
  · split at left
    · rw [List.mem_singleton] at left
      subst left
      refine ⟨Nat.le_trans behind.behind (Nat.le_max_right ..), behind.noCode, behind.notShared,
        fun grows => ?_⟩
      exact (Nat.min_self _).trans (behind.stack grows)
    · cases left
  · rw [List.mem_singleton] at left
    exact left ▸ behind

/-- What is mapped right behind the code is taken away, and the code stays. -/
theorem HasCode.clear {space : Space} (hasCode : space.HasCode) (stop : Nat) :
    (space.clear codeMapping.stop stop).HasCode := by
  obtain ⟨others, whole, othersBehind⟩ := hasCode.mappings
  have apart : ¬ codeMapping.meets codeMapping.stop stop = true := by
    rw [Mapping.meets, decide_eq_false (Nat.lt_irrefl _), Bool.and_false]
    exact Bool.false_ne_true
  rw [Space.clear]
  split
  · exact hasCode
  · refine ⟨⟨others.flatMap fun mapping => if mapping.meets codeMapping.stop stop
      then mapping.before codeMapping.stop ++ mapping.behind stop else [mapping], ?_, ?_⟩, ?_⟩
    · show space.mappings.flatMap _ = _
      rw [whole, List.flatMap_cons, if_neg apart, List.singleton_append]
    · intro mapping member
      obtain ⟨cut, member, part⟩ := List.mem_flatMap.mp member
      exact isBehindCode_cut (othersBehind cut member) part
    · show (space.pagesOutside codeMapping.stop stop)[codePage]? = none
      rw [pagesOutside]
      split
      · exact hasCode.unwritten
      · simp [hasCode.unwritten]

/-- A mapping behind the code may grow as far as to the code. -/
theorem HasCode.grow {space : Space} (hasCode : space.HasCode) {start : Nat}
    (behind : codeMapping.stop ≤ mapping.start) (reached : codeMapping.stop ≤ start) :
    Space.HasCode { space with mappings := space.mappings.map fun other =>
      if other.start = mapping.start then { other with start := start } else other } := by
  obtain ⟨others, whole, othersBehind⟩ := hasCode.mappings
  have apart : ¬ codeMapping.start = mapping.start := by
    rw [codeMapping_stop] at behind
    rw [codeMapping_start]
    omega
  refine ⟨⟨others.map fun other : Mapping =>
    if other.start = mapping.start then { other with start := start } else other, ?_, ?_⟩,
    hasCode.unwritten⟩
  · dsimp only
    rw [whole, List.map_cons, if_neg apart]
  · intro grown member
    obtain ⟨other, inside, rfl⟩ := List.mem_map.mp member
    have otherBehind := othersBehind other inside
    split
    · exact ⟨reached, otherBehind.noCode, otherBehind.notShared, otherBehind.stack⟩
    · exact otherBehind

/-- Pages may be written behind the code. -/
theorem HasCode.write {space : Space} (hasCode : space.HasCode) {pages : Std.HashMap Nat Page}
    (unwritten : pages[codePage]? = none) : { space with pages }.HasCode :=
  ⟨hasCode.mappings, unwritten⟩

/-- Nothing that is mapped is shared with other processes. -/
theorem HasCode.notShared {space : Space} (hasCode : space.HasCode) {address : Nat}
    (found : space.find? address = some mapping) : mapping.shared = false := by
  obtain ⟨others, whole, othersBehind⟩ := hasCode.mappings
  have member := List.mem_of_find?_eq_some found
  rw [whole] at member
  rcases List.mem_cons.mp member with rfl | member
  · rfl
  · exact (othersBehind mapping member).notShared

end Changes

end Space

/-! ### Worlds in which code can be run -/

namespace World

/-- The address space of the running thread. -/
def space (world : World) : Space := world.spaces.getD world.running.space {}

/-- The file that was loaded. -/
def loaded (world : World) : Content := world.contents.getD 0 {}

/-- **A world in which a page of code can be run**: the second one of the file that was loaded. -/
structure ShowsPage (page : Page) (world : World) : Prop where
  hasCode : world.space.HasCode
  page : world.loaded.pages[1]? = some page
  size : codeMapping.stop - codeMapping.start < world.loaded.size
  stackLimit : (world.processes.getD world.running.process {}).limit .stack = 0x800000

/-- Such a world with the threads and the processes of another one, in which as many instructions were
run. -/
structure IsLoaded (base : World) (page : Page) (world : World) : Prop
    extends ShowsPage page world where
  threads : world.threads = base.threads
  processes : world.processes = base.processes
  current : world.current = base.current
  steps : world.steps = base.steps

end World

section Arrays

variable {α : Type} {items : Array α} {i j : Nat} {change : α → α} {default : α}

theorem getD_modify_same (inside : i < items.size) :
    (items.modify i change).getD i default = change (items.getD i default) := by
  rw [Array.getD_eq_getD_getElem?, Array.getD_eq_getD_getElem?, Array.getElem?_modify, if_pos rfl,
    Array.getElem?_eq_getElem inside]
  rfl

theorem getD_modify_other (apart : i ≠ j) :
    (items.modify i change).getD j default = items.getD j default := by
  rw [Array.getD_eq_getD_getElem?, Array.getD_eq_getD_getElem?, Array.getElem?_modify,
    if_neg apart]

end Arrays

namespace Kernel

variable {base : World} {page : Page} {stopped : Stop → Prop}

theorem keeps_space : Keeps (World.IsLoaded base page) stopped Space.HasCode space :=
  fun _ shows => ⟨shows, shows.hasCode⟩

theorem keeps_modifySpace {change : Space → Space}
    (keeps : ∀ space, space.HasCode → (change space).HasCode) :
    Keeps (World.IsLoaded base page) stopped (fun _ => True) (modifySpace change) := by
  intro world shows
  refine ⟨⟨⟨?_, shows.page, shows.size, shows.stackLimit⟩, shows.threads, shows.processes,
    shows.current, shows.steps⟩, trivial⟩
  have changed := keeps world.space shows.hasCode
  obtain ⟨others, whole, -⟩ := shows.hasCode.mappings
  have inside : world.running.space < world.spaces.size := by
    refine Nat.lt_of_not_le fun outside => ?_
    rw [World.space, Array.getD_eq_getD_getElem?, Array.getElem?_eq_none outside] at whole
    cases whole
  show Space.HasCode ((world.spaces.modify world.running.space change).getD world.running.space {})
  rw [getD_modify_same inside]
  exact changed

theorem keeps_process : Keeps (World.IsLoaded base page) stopped (fun _ => True) process :=
  fun _ shows => ⟨shows, trivial⟩

theorem keeps_modifyContent {number : Nat} {change : Content → Content}
    (keeps : ∀ content, number = 0 → content.pages[1]? = some page →
      (change content).pages[1]? = some page ∧ (change content).size = content.size) :
    Keeps (World.IsLoaded base page) stopped (fun _ => True) (modifyContent number change) := by
  intro world shows
  have stays : ((world.contents.modify number change).getD 0 {}).pages[1]? = some page
      ∧ ((world.contents.modify number change).getD 0 {}).size = world.loaded.size := by
    by_cases loaded : number = 0
    · have inside : 0 < world.contents.size := by
        refine Nat.pos_of_ne_zero fun nothing => ?_
        have size := shows.size
        rw [World.loaded, Array.getD_eq_getD_getElem?, Array.getElem?_eq_none (by omega)] at size
        exact absurd size (Nat.not_lt_zero _)
      have changed := keeps world.loaded loaded shows.page
      subst loaded
      rwa [getD_modify_same inside]
    · rw [getD_modify_other loaded]
      exact ⟨shows.page, rfl⟩
  obtain ⟨pages, size⟩ := stays
  refine ⟨⟨⟨shows.hasCode, pages, ?_, shows.stackLimit⟩, shows.threads, shows.processes,
    shows.current, shows.steps⟩, trivial⟩
  exact Nat.lt_of_lt_of_eq shows.size size.symm

theorem keeps_shownPage (number offset : Nat) (mapping : Mapping) (address : Nat) :
    Keeps (World.IsLoaded base page) Stop.IsFault (fun _ => True)
      (shownPage number offset mapping address) := by
  have reads : Keeps (World.IsLoaded base page) Stop.IsFault
      (fun content => number = 0 → content.pages[1]? = some page) (content number) := by
    intro world shows
    refine ⟨shows, ?_⟩
    rintro rfl
    exact shows.page
  unfold shownPage
  dsimp only
  refine reads.bind fun content shown => ?_
  generalize (offset + (address / pageBytes * pageBytes - mapping.start)) = place
  split
  · exact (keeps_throw ⟨_, rfl⟩).bind fun _ (never : False) => never.elim
  · split
    · exact keeps_pure trivial
    · next missing =>
      have inserts : Keeps (World.IsLoaded base page) Stop.IsFault (fun _ => True)
          (modifyContent number fun content => { content with
            pages := content.pages.insert (place / pageBytes) Page.zeros }) := by
        refine keeps_modifyContent ?_
        intro content loaded there
        -- A page that is missing is not the one of the code
        have apart : ¬ place / pageBytes = 1 := by
          intro same
          rw [same, shown loaded] at missing
          cases missing
        refine ⟨?_, rfl⟩
        rw [Std.HashMap.getElem?_insert, if_neg (by simpa using apart), there]
      exact inserts.bind fun _ _ => keeps_pure trivial

theorem keeps_grow {address : Nat} (behind : codeMapping.stop ≤ address) :
    Keeps (World.IsLoaded base page) Stop.IsFault (fun _ => True) (grow address) := by
  unfold grow
  dsimp only
  refine keeps_space.bind fun space hasCode => ?_
  split
  · exact keeps_pure trivial
  · next mapping found =>
    have mappingBehind : codeMapping.stop ≤ mapping.start := by
      obtain ⟨others, whole, othersBehind⟩ := hasCode.mappings
      rw [Space.findFrom?, whole, List.find?_cons_of_neg (by simpa using behind)] at found
      exact (othersBehind mapping (List.mem_of_find?_eq_some found)).behind
    have reached : codeMapping.stop ≤ address / pageBytes * pageBytes := by
      rw [codeMapping_stop] at behind ⊢
      rw [pageBytes_eq]
      omega
    refine keeps_process.bind fun _ _ => keeps_space.bind fun _ _ => ?_
    split
    · exact (keeps_modifySpace fun _ hasCode => hasCode.grow mappingBehind reached).bind
        fun _ _ => keeps_pure trivial
    · exact keeps_pure trivial

theorem keeps_grantAccess (access : Access) (address : Nat) {found : Option Mapping}
    (notShared : ∀ mapping, found = some mapping → mapping.shared = false) :
    Keeps (World.IsLoaded base page) Stop.IsFault (fun mapping => mapping.shared = false)
      (grantAccess access address found) := by
  cases found with
  | none => exact keeps_throw ⟨_, rfl⟩
  | some mapping =>
    refine keeps_get.bind fun world _ => ?_
    split
    · exact keeps_pure (notShared mapping rfl)
    · split
      · exact keeps_throw ⟨_, rfl⟩
      · exact keeps_throw ⟨_, rfl⟩

theorem keeps_touch (access : Access) {address : Nat} (behind : codeMapping.stop ≤ address) :
    Keeps (World.IsLoaded base page) Stop.IsFault (fun mapping => mapping.shared = false)
      (touch access address) := by
  rw [touch]
  refine keeps_space.bind fun space hasCode => ?_
  split
  · next mapping found =>
    refine keeps_grantAccess access address ?_
    rintro _ ⟨⟩
    exact hasCode.notShared found
  · refine (keeps_grow behind).bind fun grown _ => ?_
    split
    · refine keeps_space.bind fun later hasCode => keeps_grantAccess access address ?_
      intro mapping found
      exact hasCode.notShared found
    · refine keeps_grantAccess access address ?_
      rintro _ ⟨⟩

theorem page_ne_codePage {address : Nat} (behind : codeMapping.stop ≤ address) :
    address / pageBytes ≠ codePage := by
  rw [codeMapping_stop] at behind
  rw [pageBytes_eq, codePage]
  omega

theorem keeps_pageIn {mapping : Mapping} {address : Nat} (behind : codeMapping.stop ≤ address) :
    Keeps (World.IsLoaded base page) Stop.IsFault (fun _ => True) (pageIn mapping address) := by
  have apart := page_ne_codePage behind
  unfold pageIn
  split
  · split
    · exact keeps_shownPage _ _ _ _
    · exact keeps_pure trivial
  · refine keeps_space.bind fun space hasCode => ?_
    split
    · exact keeps_pure trivial
    · split
      · exact keeps_shownPage _ _ _ _
      · refine (keeps_modifySpace fun space hasCode => hasCode.write ?_).bind
          fun _ _ => keeps_pure trivial
        rw [Std.HashMap.getElem?_insert, if_neg (by simpa using apart), hasCode.unwritten]

theorem keeps_alterPage {mapping : Mapping} (notShared : mapping.shared = false) {address : Nat}
    (behind : codeMapping.stop ≤ address) (change : Page → Page) :
    Keeps (World.IsLoaded base page) Stop.IsFault (fun _ => True) (alterPage mapping address change) := by
  have apart := page_ne_codePage behind
  unfold alterPage
  rw [notShared]
  dsimp only
  have changes (shown : Page) : Keeps (World.IsLoaded base page) Stop.IsFault (fun _ => True)
      (modifySpace fun space => { space with
        pages := space.pages.alter (address / pageBytes) fun old =>
          some (change (old.getD shown)) }) := by
    refine keeps_modifySpace fun space hasCode => hasCode.write ?_
    rw [Std.HashMap.getElem?_alter, if_neg (by simpa using apart), hasCode.unwritten]
  refine keeps_space.bind fun space hasCode => ?_
  split
  · exact (keeps_pure trivial).bind fun shown (_ : True) => changes shown
  · exact (keeps_pageIn behind).bind fun shown _ => changes shown

theorem keeps_putPages {bytes : ByteArray} {done address pages : Nat}
    (behind : codeMapping.stop ≤ address) :
    Keeps (World.IsLoaded base page) stopped (fun _ => True) (putPages bytes done address pages) := by
  induction pages generalizing done address with
  | zero => exact keeps_pure trivial
  | succ pages ih =>
    unfold putPages
    split
    · exact keeps_pure trivial
    · dsimp only
      refine ((keeps_touch .write behind).bind fun mapping notShared =>
        keeps_alterPage notShared behind _).reaching.bind fun written _ => ?_
      split
      · exact keeps_pure trivial
      · exact ih (Nat.le_trans behind (Nat.le_add_right _ _))

theorem keeps_copyOut {address : Nat} (behind : codeMapping.stop ≤ address) (bytes : ByteArray) :
    Keeps (World.IsLoaded base page) stopped (fun _ => True) (copyOut address bytes) := by
  unfold copyOut
  split
  · exact keeps_pure trivial
  · exact keeps_putPages behind

/-! ### Fetching code -/

section Fetching

variable {world : World}

theorem run_space : space.run world = (.ok world.space, world) := rfl

/-- An address in the page of the code. -/
def IsCode (address : Nat) : Prop := codeMapping.start ≤ address ∧ address < codeMapping.stop

theorem run_touch_code (shows : world.ShowsPage page) {address : Nat} (inside : IsCode address) :
    (touch .run address).run world = (.ok codeMapping, world) := by
  obtain ⟨others, whole, -⟩ := shows.hasCode.mappings
  have found : world.space.find? address = some codeMapping := by
    rw [Space.find?, whole]
    exact List.find?_cons_of_pos (by simpa [Mapping.contains, IsCode] using inside)
  rw [touch, run_bind_of_ok run_space, found]
  rfl

theorem run_pageIn_code (shows : world.ShowsPage page) {address : Nat} (inside : IsCode address) :
    (pageIn codeMapping address).run world = (.ok page, world) := by
  have inside : 0x401000 ≤ address ∧ address < 0x402000 := inside
  have number : address / pageBytes = codePage := by
    rw [pageBytes_eq, codePage]
    omega
  have place : 0x1000 + (codePage * pageBytes - codeMapping.start) = 0x1000 := rfl
  have filled : ¬ pageAligned world.loaded.size ≤ 0x1000 := by
    have size : 0x1000 < world.loaded.size := shows.size
    rw [pageAligned, pageBytes_eq]
    omega
  have reads : (content 0).run world = (.ok world.loaded, world) := rfl
  rw [pageIn, if_neg (by decide), run_bind_of_ok run_space,
    number, shows.hasCode.unwritten]
  show (shownPage 0 0x1000 codeMapping address).run world = _
  unfold shownPage
  dsimp only
  rw [run_bind_of_ok reads, number, place, if_neg filled, show 0x1000 / pageBytes = 1 from rfl,
    shows.page]
  rfl

theorem run_grow_behind (shows : world.ShowsPage page) :
    (grow codeMapping.stop).run world = (.ok false, world) := by
  obtain ⟨others, whole, othersBehind⟩ := shows.hasCode.mappings
  unfold grow
  dsimp only
  rw [run_bind_of_ok run_space]
  split
  · rfl
  · next mapping found =>
    rw [Space.findFrom?, whole, List.find?_cons_of_neg (by simp)] at found
    have mappingBehind := othersBehind mapping (List.mem_of_find?_eq_some found)
    have reads : process.run world = (.ok (world.processes.getD world.running.process {}), world) := rfl
    rw [run_bind_of_ok reads, run_bind_of_ok run_space, if_neg]
    · rfl
    · intro grows
      rw [Bool.and_eq_true, Bool.and_eq_true, decide_eq_true_eq, shows.stackLimit] at grows
      have top := mappingBehind.stack grows.1.1
      rw [top] at grows
      exact absurd grows.1.2 (by decide)

/-- Nothing can be run behind the code. -/
theorem run_touch_behind (shows : world.ShowsPage page) :
    ∃ info, (touch .run codeMapping.stop).run world = (.error (.fault info), world) := by
  obtain ⟨others, whole, othersBehind⟩ := shows.hasCode.mappings
  rw [touch, run_bind_of_ok run_space]
  cases found : world.space.find? codeMapping.stop with
  | some mapping =>
    rw [Space.find?, whole, List.find?_cons_of_neg (by simp [Mapping.contains])] at found
    have noCode := (othersBehind mapping (List.mem_of_find?_eq_some found)).noCode
    have refuses (rights : UInt64) : mapping.allows rights .run = false := by
      simp [Mapping.allows, noCode]
    refine ⟨segmentFault 2 codeMapping.stop, ?_⟩
    show (if mapping.allows world.cpu.keyRights .run then pure mapping
      else if mapping.allows 0 .run then throw (.fault (segmentFault 4 codeMapping.stop))
      else throw (.fault (segmentFault 2 codeMapping.stop)) : Kernel Mapping).run world = _
    rw [refuses, refuses]
    rfl
  | none =>
    dsimp only
    rw [run_bind_of_ok (run_grow_behind shows)]
    exact ⟨_, rfl⟩

theorem run_bind_of_error {α β : Type} {action : Kernel α} {next : α → Kernel β} {stop : Stop}
    {later : World} (stops : action.run world = (.error stop, later)) :
    (action >>= next).run world = (.error stop, later) := by
  rw [run_bind, stops]

/-- **What is fetched in the page of the code** is in that page, and fetching it changes nothing. -/
theorem run_fetch_code (shows : world.ShowsPage page) (whole : page.size = pageBytes) {offset : Nat}
    (inside : offset < pageBytes) :
    (fetch (UInt64.ofNat (codeMapping.start + offset))).run world
      = (.ok (page.extract offset (min (offset + Machine.maxInstruction) pageBytes)), world) := by
  have small : offset < 4096 := inside
  have first : (UInt64.ofNat (codeMapping.start + offset)).toNat = codeMapping.start + offset := by
    rw [UInt64.toNat_ofNat']
    exact Nat.mod_eq_of_lt (by rw [codeMapping_start]; omega)
  have isCode : IsCode (codeMapping.start + offset) := by
    rw [IsCode, codeMapping_start, codeMapping_stop]
    omega
  have within : (codeMapping.start + offset) % pageBytes = offset := by
    rw [codeMapping_start, pageBytes_eq]
    omega
  unfold fetch
  dsimp only
  rw [first, run_bind_of_ok (run_touch_code shows isCode),
    run_bind_of_ok (run_pageIn_code shows isCode), within]
  split
  · next fits =>
    rw [Nat.min_eq_left fits]
    rfl
  · next crosses =>
    have here : (page.extract offset pageBytes).size = pageBytes - offset := by
      rw [ByteArray.size_extract, whole, Nat.min_self]
    have second : addressAfter (codeMapping.start + offset) (page.extract offset pageBytes).size
        = codeMapping.stop := by
      rw [here, addressAfter, codeMapping_start, codeMapping_stop, pageBytes_eq]
      omega
    obtain ⟨info, refused⟩ := run_touch_behind shows
    have nothing : (tryCatch (do
          let mapping ← touch .run codeMapping.stop
          let next ← pageIn mapping codeMapping.stop
          return next.extract 0 (Machine.maxInstruction - (page.extract offset pageBytes).size))
        fun _ => return ByteArray.empty : Kernel ByteArray).run world
        = (.ok ByteArray.empty, world) := by
      rw [run_tryCatch, run_bind_of_error refused]
      rfl
    rw [second, run_bind_of_ok nothing, Nat.min_eq_right (by omega)]
    exact congrArg (fun window => (Except.ok window, world)) ByteArray.append_empty

end Fetching

end Kernel

/-- The processor has no part in what can be run. -/
theorem World.ShowsPage.withCpu {page : Page} {world : World} (shows : world.ShowsPage page)
    (cpu : Cpu) : { world with cpu }.ShowsPage page :=
  ⟨shows.hasCode, shows.page, shows.size, shows.stackLimit⟩

/-- **Code that begins the page can be run.** -/
theorem World.ShowsPage.holdsCode {page : Page} {world : World} (shows : world.ShowsPage page)
    (whole : page.size = pageBytes) {code : Bytes} (begins : code <+: page.data.toList) :
    world.HoldsCode (UInt64.ofNat codeMapping.start) code := by
  intro i within
  have inside : i < pageBytes := by
    have length : code.length ≤ page.size := begins.length_le
    omega
  refine ⟨page.extract i (min (i + Machine.maxInstruction) pageBytes), fun registers next => ?_, ?_⟩
  · rw [← UInt64.ofNat_add]
    exact Kernel.run_fetch_code (shows.withCpu { world.cpu with registers, next }) whole inside
  · rw [ByteArray.data_extract, Array.toList_extract, List.extract]
    have all : (page.data.toList.drop i).take (min (i + Machine.maxInstruction) pageBytes - i)
        = (page.data.toList.drop i).take Machine.maxInstruction := by
      rw [List.take_eq_take_iff, List.length_drop, Array.length_toList, ByteArray.size_data, whole]
      omega
    obtain ⟨more, whole⟩ := begins
    rw [all, ← whole, List.drop_append_of_le_length (Nat.le_of_lt within), List.take_append]
    exact List.prefix_append ..

end StaticElf.Linux
