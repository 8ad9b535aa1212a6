import ParsecCloud.Lib.HashMap
import ParsecCloud.Lib.Runs
import ParsecCloud.Types.EntryName

/- The inodes that a FUSE mountpoint gives to the kernel (platform_mountpoint, unix/inode.rs), which
   counts its lookups of each and forgets them later. -/
namespace ParsecCloud
open Rust Runs HashMap

structure FsPath where
  parts : List EntryName
  deriving DecidableEq

def FsPath.root : FsPath := ⟨[]⟩

def FsPath.join (path : FsPath) (child : EntryName) : FsPath := ⟨path.parts ++ [child]⟩

namespace Inodes

abbrev Inode := Nat

/-- The index of a path is its inode. -/
structure PathsStore where
  pathsIndexedByInode : List FsPath
  stackUnusedInodes : List Inode

/-- Inode 0 is a dummy, inode 1 is the root. -/
def PathsStore.default : PathsStore := ⟨[.root, .root], []⟩

structure Counter where
  value : Nat

namespace Counter

def default : Counter := ⟨1⟩

def increment (counter : Counter) : Checked Counter := do return ⟨← add counter.value 1⟩

def decrement (counter : Counter) (nlookup : Nat) : Checked Counter := do
  return ⟨← sub counter.value nlookup⟩

def isZero (counter : Counter) : Bool := counter.value = 0

end Counter

structure InodesManager where
  pathsStore : PathsStore
  opened : HashMap FsPath (Counter × Inode)

namespace InodesManager

def new : InodesManager := ⟨.default, ∅⟩

def paths (m : InodesManager) : List FsPath := m.pathsStore.pathsIndexedByInode

def unused (m : InodesManager) : List Inode := m.pathsStore.stackUnusedInodes

def getPathOrPanic (m : InodesManager) (inode : Inode) : Checked FsPath :=
  match m.paths[inode]? with
  | some path => .ok path
  | none => .error .outOfRange

def insertPath (m : InodesManager) (path : FsPath) : Checked (Inode × InodesManager) :=
  match m.opened.lookup path with
  | some (counter, inode) => do
    let counter ← counter.increment
    return (inode, { m with opened := m.opened.insert path (counter, inode) })
  | none =>
    match m.unused with
    | inode :: rest =>
      if inode < m.paths.length then
        .ok (inode, ⟨⟨m.paths.set inode path, rest⟩, m.opened.insert path (.default, inode)⟩)
      else .error .outOfRange
    | [] =>
      .ok (m.paths.length,
        ⟨⟨m.paths ++ [path], []⟩, m.opened.insert path (.default, m.paths.length)⟩)

def removePathOrPanic (m : InodesManager) (inode : Inode) (nlookup : Nat) :
    Checked InodesManager := do
  let path ← m.getPathOrPanic inode
  match m.opened.lookup path with
  | none => return m
  | some (counter, opened) =>
    let counter ← counter.decrement nlookup
    if counter.isZero then return ⟨⟨m.paths, inode :: m.unused⟩, m.opened.erase path⟩
    else return { m with opened := m.opened.insert path (counter, opened) }

end InodesManager

/-- The mountpoint, with what the kernel has looked up and not forgotten, and under which path. A
    listing without attributes, or a reply that fails, gives an inode that it does not count. -/
structure Mount where
  inodes : InodesManager
  lookups : Inode → Nat
  names : Inode → FsPath
  uncounted : Inode → Nat

namespace Mount

def new : Mount := ⟨.new, fun _ => 0, fun _ => .root, fun _ => 0⟩

def gives (s : Mount) (inodes : InodesManager) (path : FsPath) (inode : Inode) : Bool → Mount
  | true => { s with
      inodes := inodes
      lookups := Function.update s.lookups inode (s.lookups inode + 1)
      names := Function.update s.names inode path }
  | false => { s with
      inodes := inodes
      uncounted := Function.update s.uncounted inode (s.uncounted inode + 1) }

def forgets (s : Mount) (inodes : InodesManager) (inode : Inode) (nlookup : Nat) : Mount :=
  { s with
    inodes := inodes
    lookups := Function.update s.lookups inode (s.lookups inode - nlookup) }

end Mount

inductive MountEvent where
  | insert (path : FsPath) (inode : Inode) (counted : Bool)
  | forget (inode : Inode) (nlookup : Nat)

/-- The kernel forgets no more than it has looked up, and may forget the root. -/
def Mount.MayForget (s : Mount) (inode : Inode) (nlookup : Nat) : Prop :=
  inode = 1 ∨ 0 < nlookup ∧ nlookup ≤ s.lookups inode

inductive MountStep : Mount → MountEvent → Mount → Prop where
  | insert {s inodes inode} (parent : FsPath) (child : EntryName) (counted : Bool) :
      s.inodes.insertPath (parent.join child) = .ok (inode, inodes) →
      MountStep s (.insert (parent.join child) inode counted)
        (s.gives inodes (parent.join child) inode counted)
  | forget {s inodes inode nlookup} : s.MayForget inode nlookup →
      s.inodes.removePathOrPanic inode nlookup = .ok inodes →
      MountStep s (.forget inode nlookup) (s.forgets inodes inode nlookup)

/-- What the kernel holds is shown under the path it was looked up with, and nothing else is; it can
    forget what it holds; and an inode that was given without being counted is never given back. -/
structure InodesFaithful (s : Mount) : Prop where
  shown : ∀ inode, 0 < s.lookups inode → s.inodes.getPathOrPanic inode = .ok (s.names inode)
  apart : ∀ inode other, 0 < s.lookups inode → 0 < s.lookups other →
    s.names inode = s.names other → inode = other
  stable : ∀ path inode counted s', MountStep s (.insert path inode counted) s' →
    0 < s.lookups inode → path = s.names inode
  forgets : ∀ inode nlookup, s.MayForget inode nlookup →
    ∃ s', MountStep s (.forget inode nlookup) s'
  root : s.inodes.getPathOrPanic 1 = .ok .root ∧ s.lookups 0 = 0 ∧ s.lookups 1 = 0
  leaked : ∀ inode, 0 < s.uncounted inode → ∀ s', Run MountStep (fun _ _ => True) s s' →
    s'.inodes.getPathOrPanic inode = s.inodes.getPathOrPanic inode ∧ inode ∉ s'.inodes.unused

def InodesManager.Opens (m : InodesManager) (path : FsPath) (inode : Inode) : Prop :=
  ∃ counter, m.opened.lookup path = some (counter, inode)

structure Entry (s : Mount) (path : FsPath) (counter : Counter) (inode : Inode) : Prop where
  there : s.inodes.paths[inode]? = some path
  notRoot : path ≠ .root
  above : 2 ≤ inode
  counts : counter.value = s.lookups inode + s.uncounted inode
  positive : 0 < counter.value
  named : 0 < s.lookups inode → s.names inode = path

structure MountSound (s : Mount) : Prop where
  entries : ∀ path counter inode, s.inodes.opened.lookup path = some (counter, inode) →
    Entry s path counter inode
  idle : ∀ inode, (∀ path, ¬ s.inodes.Opens path inode) →
    s.lookups inode = 0 ∧ s.uncounted inode = 0
  unused : ∀ inode ∈ s.inodes.unused, 2 ≤ inode ∧ inode < s.inodes.paths.length ∧
    ∀ path, ¬ s.inodes.Opens path inode
  nodup : s.inodes.unused.Nodup
  roots : s.inodes.paths[0]? = some .root ∧ s.inodes.paths[1]? = some .root

/-- What an insertion has done. -/
structure Inserted (m : InodesManager) (path : FsPath) (inode : Inode) (m' : InodesManager) :
    Prop where
  entry : ∃ before, m'.opened = m.opened.insert path (⟨before + 1⟩, inode) ∧
    (m.opened.lookup path = some (⟨before⟩, inode) ∨
      before = 0 ∧ m.opened.lookup path = none ∧ ∀ other, ¬ m.Opens other inode)
  there : m'.paths[inode]? = some path
  others : ∀ other ≠ inode, ∀ found, m.paths[other]? = some found → m'.paths[other]? = some found
  fresh : inode ∉ m'.unused
  unused : m'.unused.Sublist m.unused
  above : 2 ≤ inode

theorem apart_of_above {inode : Nat} (above : 2 ≤ inode) : inode ≠ 0 ∧ inode ≠ 1 := by omega

section Sound
variable {s s' : Mount} {path : FsPath} {inode other : Inode} {event : MountEvent}

theorem getPathOrPanic_eq_ok {m : InodesManager} :
    m.getPathOrPanic inode = .ok path ↔ m.paths[inode]? = some path := by
  unfold InodesManager.getPathOrPanic
  split
  · rename_i found there
    rw [there, Except.ok.injEq, Option.some.injEq]
  · rename_i absent
    simp [absent]

variable (sound : MountSound s)
include sound

theorem MountSound.same_path (first : s.inodes.Opens path inode) {path' : FsPath}
    (second : s.inodes.Opens path' inode) : path = path' := by
  obtain ⟨counter, isFirst⟩ := first
  obtain ⟨counter', isSecond⟩ := second
  have there := (sound.entries _ _ _ isFirst).there
  rw [(sound.entries _ _ _ isSecond).there] at there
  exact (Option.some.inj there).symm

theorem MountSound.opens (holds : 0 < s.lookups inode ∨ 0 < s.uncounted inode) :
    ∃ path counter, s.inodes.opened.lookup path = some (counter, inode) := by
  by_contra never
  have nothing := sound.idle inode fun path ⟨counter, given⟩ => never ⟨path, counter, given⟩
  omega

theorem MountSound.insert_spec {m : InodesManager}
    (inserts : s.inodes.insertPath path = .ok (inode, m)) : Inserted s.inodes path inode m := by
  unfold InodesManager.insertPath at inserts
  split at inserts
  · rename_i counter found there
    obtain ⟨next, incremented, done⟩ := bind_eq_ok.mp inserts
    obtain ⟨value, adds, isNext⟩ := bind_eq_ok.mp incremented
    obtain ⟨-, rfl⟩ := add_eq_ok.mp adds
    cases isNext
    cases done
    have entry := sound.entries path counter inode there
    refine ⟨⟨counter.value, rfl, Or.inl there⟩, entry.there, fun _ _ _ kept => kept, ?_,
      List.Sublist.refl _, entry.above⟩
    exact fun free => (sound.unused inode free).2.2 path ⟨counter, there⟩
  · rename_i absent
    split at inserts
    · rename_i first rest stack
      split at inserts
      · rename_i below
        cases inserts
        obtain ⟨above, -, unopened⟩ := sound.unused inode (by rw [stack]; exact List.mem_cons_self)
        have nodup := sound.nodup
        rw [stack, List.nodup_cons] at nodup
        refine ⟨⟨0, rfl, Or.inr ⟨rfl, absent, unopened⟩⟩, ?_, ?_, nodup.1, ?_, above⟩
        · exact List.getElem?_set_self below
        · intro other apart found there
          exact (List.getElem?_set_ne (Ne.symm apart)).trans there
        · rw [stack]
          exact List.sublist_cons_self _ _
      · cases inserts
    · rename_i stack
      cases inserts
      have above : 2 ≤ s.inodes.paths.length := (List.getElem?_eq_some_iff.mp sound.roots.2).1
      refine ⟨⟨0, rfl, Or.inr ⟨rfl, absent, ?_⟩⟩, List.getElem?_concat_length, ?_, List.not_mem_nil,
        List.nil_sublist _, above⟩
      · rintro other ⟨counter, given⟩
        have there := (sound.entries _ _ _ given).there
        exact absurd (List.getElem?_eq_some_iff.mp there).1 (lt_irrefl _)
      · intro other apart found there
        exact (List.getElem?_append_left (List.getElem?_eq_some_iff.mp there).1).trans there

/-- What forgetting has done: nothing for an inode that is not given, or else it has kept the inode
    for what is left of its counter, or freed it. -/
inductive Removed (m : InodesManager) (inode : Inode) (nlookup : Nat) : InodesManager → Prop where
  | unopened : (∀ path, ¬ m.Opens path inode) → Removed m inode nlookup m
  | kept {path : FsPath} {value : Nat} : m.opened.lookup path = some (⟨value⟩, inode) →
      nlookup < value → Removed m inode nlookup
        { m with opened := m.opened.insert path (⟨value - nlookup⟩, inode) }
  | freed {path : FsPath} : m.opened.lookup path = some (⟨nlookup⟩, inode) →
      Removed m inode nlookup ⟨⟨m.paths, inode :: m.unused⟩, m.opened.erase path⟩

theorem MountSound.remove_spec {nlookup : Nat} (may : s.MayForget inode nlookup) :
    ∃ m, s.inodes.removePathOrPanic inode nlookup = .ok m ∧ Removed s.inodes inode nlookup m := by
  unfold InodesManager.removePathOrPanic
  rcases may with rfl | ⟨positive, held⟩
  · have nowhere : s.inodes.opened.lookup .root = none := by
      cases there : s.inodes.opened.lookup .root with
      | none => rfl
      | some given => exact absurd rfl (sound.entries _ given.1 given.2 there).notRoot
    rw [getPathOrPanic_eq_ok.mpr sound.roots.2, ok_bind, nowhere]
    refine ⟨_, rfl, .unopened ?_⟩
    rintro path ⟨counter, given⟩
    exact absurd rfl (apart_of_above (sound.entries _ _ _ given).above).2
  · obtain ⟨path, ⟨value⟩, given⟩ := sound.opens (Or.inl (Nat.lt_of_lt_of_le positive held))
    have entry := sound.entries _ _ _ given
    have counts : value = s.lookups inode + s.uncounted inode := entry.counts
    have enough : nlookup ≤ value := by omega
    rw [getPathOrPanic_eq_ok.mpr entry.there, ok_bind, given]
    simp only [Counter.decrement, sub_ok enough, ok_bind, pure_eq_ok, Counter.isZero]
    by_cases left : value = nlookup
    · subst left
      exact ⟨_, by simp, .freed given⟩
    · have nonzero : value - nlookup ≠ 0 := by omega
      exact ⟨_, by simp [nonzero], .kept given (by omega)⟩

end Sound

section Steps
variable {s s' : Mount} {m : InodesManager} {path : FsPath} {inode other : Inode} {counter : Counter}

theorem gives_other (counted : Bool) (apart : other ≠ inode) :
    (s.gives m path inode counted).lookups other = s.lookups other ∧
      (s.gives m path inode counted).uncounted other = s.uncounted other ∧
        (s.gives m path inode counted).names other = s.names other := by
  cases counted <;> simp [Mount.gives, Function.update_of_ne apart]

theorem gives_total (counted : Bool) :
    (s.gives m path inode counted).lookups inode + (s.gives m path inode counted).uncounted inode =
      s.lookups inode + s.uncounted inode + 1 := by
  cases counted <;> simp only [Mount.gives, Function.update_self] <;> omega

theorem gives_named (counted : Bool) (named : 0 < s.lookups inode → s.names inode = path)
    (holds : 0 < (s.gives m path inode counted).lookups inode) :
    (s.gives m path inode counted).names inode = path := by
  cases counted with
  | true => exact Function.update_self _ _ _
  | false => exact named holds

theorem gives_inodes (counted : Bool) : (s.gives m path inode counted).inodes = m := by
  cases counted <;> rfl

theorem forgets_lookups {nlookup : Nat} :
    (s.forgets m inode nlookup).lookups inode = s.lookups inode - nlookup :=
  Function.update_self _ _ _

theorem Entry.same (entry : Entry s path counter other)
    (there : s'.inodes.paths[other]? = some path) (lookups : s'.lookups other = s.lookups other)
    (uncounted : s'.uncounted other = s.uncounted other) (names : s'.names other = s.names other) :
    Entry s' path counter other where
  there := there
  notRoot := entry.notRoot
  above := entry.above
  counts := by rw [lookups, uncounted, entry.counts]
  positive := entry.positive
  named := by
    rw [lookups, names]
    exact entry.named

/-- One path and one inode may have changed. -/
structure Changed (s s' : Mount) (path : FsPath) (inode : Inode) : Prop where
  opened : ∀ path' ≠ path, s'.inodes.opened.lookup path' = s.inodes.opened.lookup path'
  others : ∀ other ≠ inode, ∀ found,
    s.inodes.paths[other]? = some found → s'.inodes.paths[other]? = some found
  counts : ∀ other ≠ inode, s'.lookups other = s.lookups other ∧
    s'.uncounted other = s.uncounted other ∧ s'.names other = s.names other
  alone : ∀ path' counter other, s.inodes.opened.lookup path' = some (counter, other) →
    (path' = path ↔ other = inode)
  entry : ∀ counter other, s'.inodes.opened.lookup path = some (counter, other) →
    other = inode ∧ Entry s' path counter inode
  idle : s'.inodes.opened.lookup path = none → s'.lookups inode = 0 ∧ s'.uncounted inode = 0
  unused : ∀ other ∈ s'.inodes.unused, other ∈ s.inodes.unused ∧ other ≠ inode ∨
    other = inode ∧ s'.inodes.opened.lookup path = none
  nodup : s'.inodes.unused.Nodup
  above : 2 ≤ inode ∧ inode < s'.inodes.paths.length

variable (sound : MountSound s)
include sound

theorem MountSound.changed (changed : Changed s s' path inode) : MountSound s' := by
  have older : ∀ path' ≠ path, ∀ counter other,
      s'.inodes.opened.lookup path' = some (counter, other) →
        other ≠ inode ∧ s.inodes.opened.lookup path' = some (counter, other) := by
    intro path' differs counter other given
    rw [changed.opened path' differs] at given
    exact ⟨fun same => differs ((changed.alone _ _ _ given).mpr same), given⟩
  constructor
  · intro path' counter other given
    by_cases same : path' = path
    · subst same
      obtain ⟨rfl, entry⟩ := changed.entry counter other given
      exact entry
    · obtain ⟨apart, given⟩ := older path' same counter other given
      obtain ⟨lookups, uncounted, names⟩ := changed.counts other apart
      have entry := sound.entries _ _ _ given
      exact entry.same (changed.others other apart _ entry.there) lookups uncounted names
  · intro other unopened
    by_cases same : other = inode
    · subst same
      cases there : s'.inodes.opened.lookup path with
      | none => exact changed.idle there
      | some given =>
        obtain ⟨isOther, -⟩ := changed.entry given.1 given.2 there
        exact absurd ⟨given.1, isOther ▸ there⟩ (unopened path)
    · obtain ⟨lookups, uncounted, -⟩ := changed.counts other same
      rw [lookups, uncounted]
      refine sound.idle other fun path' ⟨counter, given⟩ => unopened path' ⟨counter, ?_⟩
      rw [changed.opened, given]
      exact fun isPath => same ((changed.alone _ _ _ given).mp isPath)
  · intro other free
    rcases changed.unused other free with ⟨wasFree, apart⟩ | ⟨rfl, absent⟩
    · obtain ⟨above, below, unopened⟩ := sound.unused other wasFree
      have there := changed.others other apart _ (List.getElem?_eq_getElem below)
      refine ⟨above, (List.getElem?_eq_some_iff.mp there).1, fun path' ⟨counter, given⟩ => ?_⟩
      by_cases same : path' = path
      · subst same
        exact apart (changed.entry counter other given).1
      · exact unopened path' ⟨counter, (older path' same counter other given).2⟩
    · refine ⟨changed.above.1, changed.above.2, fun path' ⟨counter, given⟩ => ?_⟩
      by_cases same : path' = path
      · rw [same, absent] at given
        cases given
      · exact (older path' same counter other given).1 rfl
  · exact changed.nodup
  · have apart := apart_of_above changed.above.1
    exact ⟨changed.others 0 apart.1.symm _ sound.roots.1,
      changed.others 1 apart.2.symm _ sound.roots.2⟩

theorem MountSound.alone (there : s.inodes.opened.lookup path = some (counter, inode))
    (path' : FsPath) (counter' : Counter) (other : Inode)
    (given : s.inodes.opened.lookup path' = some (counter', other)) :
    path' = path ↔ other = inode := by
  constructor
  · rintro rfl
    rw [there] at given
    cases given
    rfl
  · rintro rfl
    exact sound.same_path ⟨_, given⟩ ⟨_, there⟩

theorem MountSound.insert (inserted : Inserted s.inodes path inode m) (notRoot : path ≠ .root)
    (counted : Bool) : MountSound (s.gives m path inode counted) := by
  obtain ⟨before, opens, first⟩ := inserted.entry
  have isOpened : m.opened.lookup path = some (⟨before + 1⟩, inode) := by
    rw [opens, Finmap.lookup_insert]
  refine sound.changed (show Changed s _ path inode from ?_)
  constructor <;> try rw [gives_inodes]
  case opened => exact fun path' differs => by rw [opens, Finmap.lookup_insert_of_ne _ differs]
  case others => exact inserted.others
  case counts => exact fun other apart => gives_other counted apart
  case alone =>
    intro path' counter other given
    rcases first with there | ⟨-, absent, unopened⟩
    · exact sound.alone there path' counter other given
    · constructor
      · rintro rfl
        rw [absent] at given
        cases given
      · rintro rfl
        exact absurd ⟨counter, given⟩ (unopened path')
  case entry =>
    intro counter other given
    rw [isOpened, Option.some.injEq, Prod.mk.injEq] at given
    obtain ⟨rfl, rfl⟩ := given
    have known : before = s.lookups inode + s.uncounted inode ∧
        (0 < s.lookups inode → s.names inode = path) := by
      rcases first with there | ⟨rfl, -, unopened⟩
      · exact ⟨(sound.entries _ _ _ there).counts, (sound.entries _ _ _ there).named⟩
      · have nothing := sound.idle inode unopened
        omega
    refine ⟨rfl, ?_, notRoot, inserted.above, ?_, Nat.succ_pos _, gives_named counted known.2⟩
    · rw [gives_inodes]
      exact inserted.there
    · rw [gives_total, ← known.1]
  case idle => simp [isOpened]
  case unused =>
    refine fun other free => Or.inl ⟨inserted.unused.subset free, ?_⟩
    rintro rfl
    exact inserted.fresh free
  case nodup => exact sound.nodup.sublist inserted.unused
  case above => exact ⟨inserted.above, (List.getElem?_eq_some_iff.mp inserted.there).1⟩

theorem MountSound.remove {nlookup : Nat} (may : s.MayForget inode nlookup)
    (removed : Removed s.inodes inode nlookup m) : MountSound (s.forgets m inode nlookup) := by
  have held : ∀ path counter, s.inodes.opened.lookup path = some (counter, inode) →
      nlookup ≤ s.lookups inode := by
    intro path counter given
    rcases may with root | ⟨-, held⟩
    · exact absurd root (apart_of_above (sound.entries _ _ _ given).above).2
    · exact held
  have counts : ∀ m' : InodesManager, ∀ other ≠ inode,
      (s.forgets m' inode nlookup).lookups other = s.lookups other :=
    fun _ other apart => Function.update_of_ne apart _ _
  cases removed with
  | unopened nowhere =>
    have nothing := (sound.idle inode nowhere).1
    have same : s.forgets s.inodes inode nlookup = s := by
      rw [Mount.forgets, nothing, Nat.zero_sub, ← nothing, Function.update_eq_self]
    rwa [same]
  | @kept path value there left =>
    have entry := sound.entries _ _ _ there
    have total : value = s.lookups inode + s.uncounted inode := entry.counts
    have held := held _ _ there
    have opened : (s.inodes.opened.insert path (⟨value - nlookup⟩, inode)).lookup path = _ :=
      Finmap.lookup_insert _
    refine sound.changed (show Changed s _ path inode from ⟨?_, fun _ _ _ there => there,
      fun other apart => ⟨counts _ other apart, rfl, rfl⟩, sound.alone there, ?_, ?_, ?_, sound.nodup,
      entry.above, (List.getElem?_eq_some_iff.mp entry.there).1⟩)
    · exact fun path' differs => Finmap.lookup_insert_of_ne _ differs
    · intro counter other given
      cases opened.symm.trans given
      refine ⟨rfl, entry.there, entry.notRoot, entry.above, ?_, Nat.sub_pos_of_lt left, ?_⟩
      · rw [forgets_lookups]
        change value - nlookup = _ + s.uncounted inode
        omega
      · rw [forgets_lookups]
        exact fun holds => entry.named (by omega)
    · intro absent
      cases opened.symm.trans absent
    · refine fun other free => Or.inl ⟨free, ?_⟩
      rintro rfl
      exact (sound.unused other free).2.2 path ⟨_, there⟩
  | @freed path there =>
    have entry := sound.entries _ _ _ there
    have total : nlookup = s.lookups inode + s.uncounted inode := entry.counts
    have held := held _ _ there
    have absent : (s.inodes.opened.erase path).lookup path = none := Finmap.lookup_erase _ _
    refine sound.changed (show Changed s _ path inode from ⟨?_, fun _ _ _ there => there,
      fun other apart => ⟨counts _ other apart, rfl, rfl⟩, sound.alone there, ?_, ?_, ?_, ?_,
      entry.above, (List.getElem?_eq_some_iff.mp entry.there).1⟩)
    · exact fun path' differs => Finmap.lookup_erase_ne differs
    · intro counter other given
      cases absent.symm.trans given
    · refine fun _ => ⟨forgets_lookups.trans (by omega), ?_⟩
      change s.uncounted inode = 0
      omega
    · intro other free
      rcases List.mem_cons.mp free with rfl | wasFree
      · exact Or.inr ⟨rfl, absent⟩
      · refine Or.inl ⟨wasFree, ?_⟩
        rintro rfl
        exact (sound.unused other wasFree).2.2 path ⟨_, there⟩
    · exact List.nodup_cons.mpr
        ⟨fun free => (sound.unused inode free).2.2 path ⟨_, there⟩, sound.nodup⟩

theorem MountSound.step {event : MountEvent} (step : MountStep s event s') : MountSound s' := by
  cases step with
  | insert parent child counted inserts =>
    refine sound.insert (sound.insert_spec inserts) ?_ counted
    intro isRoot
    simp [FsPath.join, FsPath.root] at isRoot
  | forget may removes =>
    obtain ⟨m, removed, spec⟩ := sound.remove_spec may
    rw [removes] at removed
    cases removed
    exact sound.remove may spec

theorem MountSound.uncounted_kept {event : MountEvent} (leaks : 0 < s.uncounted inode)
    (step : MountStep s event s') :
    0 < s'.uncounted inode ∧ s'.inodes.paths[inode]? = s.inodes.paths[inode]? := by
  cases step with
  | @insert m given parent child counted inserts =>
    have inserted := sound.insert_spec inserts
    rw [gives_inodes]
    by_cases same : inode = given
    · subst same
      refine ⟨by cases counted <;> simp [Mount.gives, leaks], ?_⟩
      obtain ⟨_, -, there | ⟨-, -, unopened⟩⟩ := inserted.entry
      · rw [inserted.there, (sound.entries _ _ _ there).there]
      · exact absurd (sound.idle inode unopened).2 (Nat.pos_iff_ne_zero.mp leaks)
    · rw [(gives_other counted same).2.1]
      obtain ⟨path, counter, opened⟩ := sound.opens (Or.inr leaks)
      have there := (sound.entries _ _ _ opened).there
      exact ⟨leaks, there ▸ inserted.others inode same _ there⟩
  | forget may removes =>
    obtain ⟨m, removed, spec⟩ := sound.remove_spec may
    rw [removes] at removed
    cases removed
    refine ⟨leaks, ?_⟩
    cases spec <;> rfl

theorem MountSound.uncounted_later (leaks : 0 < s.uncounted inode)
    (later : Run MountStep (fun _ _ => True) s s') : MountSound s' ∧ 0 < s'.uncounted inode ∧
      s'.inodes.paths[inode]? = s.inodes.paths[inode]? := by
  induction later with
  | start => exact ⟨sound, leaks, rfl⟩
  | step _ _ step ih =>
    have kept := ih.1.uncounted_kept ih.2.1 step
    exact ⟨ih.1.step step, kept.1, kept.2.trans ih.2.2⟩

omit sound in
theorem mountSound_new : MountSound .new where
  entries := by
    intro path counter inode given
    cases given
  idle := fun _ _ => ⟨rfl, rfl⟩
  unused := by simp [Mount.new, InodesManager.new, InodesManager.unused, PathsStore.default]
  nodup := List.nodup_nil
  roots := ⟨rfl, rfl⟩

end Steps

/-- After any lookups, creations, listings and forgettings, what the kernel knows of the inodes is
    true of the mountpoint. -/
theorem inodes_are_faithful {s : Mount} (run : Run MountStep (fun _ _ => True) .new s) :
    InodesFaithful s := by
  have sound : MountSound s := run.keeps mountSound_new fun _ _ _ sound _ step => sound.step step
  have named : ∀ inode, 0 < s.lookups inode → s.inodes.Opens (s.names inode) inode := by
    intro inode held
    obtain ⟨path, counter, given⟩ := sound.opens (Or.inl held)
    rw [(sound.entries _ _ _ given).named held]
    exact ⟨counter, given⟩
  constructor
  · intro inode held
    obtain ⟨counter, given⟩ := named inode held
    exact getPathOrPanic_eq_ok.mpr (sound.entries _ _ _ given).there
  · intro inode other held heldOther same
    obtain ⟨counter, given⟩ := named inode held
    obtain ⟨counter', givenOther⟩ := named other heldOther
    rw [same, givenOther] at given
    cases given
    rfl
  · intro path inode counted s' step held
    cases step with
    | insert parent child counted inserts =>
      obtain ⟨counter, given⟩ := named inode held
      obtain ⟨_, -, there | ⟨-, -, unopened⟩⟩ := (sound.insert_spec inserts).entry
      · exact sound.same_path ⟨_, there⟩ ⟨_, given⟩
      · exact absurd ⟨counter, given⟩ (unopened _)
  · intro inode nlookup may
    obtain ⟨m, removes, -⟩ := sound.remove_spec may
    exact ⟨_, .forget may removes⟩
  · have unheld : ∀ inode < 2, s.lookups inode = 0 := by
      intro inode low
      by_contra held
      obtain ⟨path, counter, given⟩ := sound.opens (Or.inl (Nat.pos_of_ne_zero held))
      exact absurd (sound.entries _ _ _ given).above (Nat.not_le_of_lt low)
    exact ⟨getPathOrPanic_eq_ok.mpr sound.roots.2, unheld 0 Nat.two_pos, unheld 1 Nat.one_lt_two⟩
  · intro inode leaks s' later
    have kept := sound.uncounted_later leaks later
    obtain ⟨path, counter, given⟩ := kept.1.opens (Or.inr kept.2.1)
    refine ⟨?_, fun free => (kept.1.unused inode free).2.2 path ⟨counter, given⟩⟩
    have there := (kept.1.entries _ _ _ given).there
    rw [getPathOrPanic_eq_ok.mpr there, getPathOrPanic_eq_ok.mpr (kept.2.2 ▸ there)]

/-- A file is looked up and forgotten, and its inode goes to another one. -/
theorem inodes_are_faithful_reused :
    ∃ s, InodesFaithful s ∧ s.lookups 2 = 1 ∧ s.names 2 = FsPath.root.join entryB := by
  have run : Run MountStep (fun _ _ => True) .new _ :=
    ((Run.start.step trivial (.insert .root entryA true rfl)).step trivial
      (@MountStep.forget _ _ 2 1 (Or.inr ⟨Nat.one_pos, by decide⟩) rfl)).step trivial
        (.insert .root entryB true rfl)
  exact ⟨_, inodes_are_faithful run, rfl, rfl⟩

end Inodes
end ParsecCloud
