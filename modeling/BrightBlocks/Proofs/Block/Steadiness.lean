import BrightBlocks.Proofs.Block.Flatness

/-!
# What a machine notes and what it places

Of the notices of a machine, those about openers that are kept flat are due for the leaves that
it has placed, one for each (`Machine.Steady`), and every open block starts with the word that
has opened it (`Machine.Opened`). Placing a token, entering a block and leaving blocks preserve
both, as long as a token that is kept flat is placed together with its notice.
-/

namespace BrightBlocks.Block.Machine

variable {source : Text} {limit : Nat}

/-! ## What is noted and what is placed -/

/--
What a machine has noted about openers is what is due for the leaves that it has placed, and each
of these openers has as many blocks around it as the limit allows.
-/
structure Steady (source : Text) (limit : Nat) (machine : Machine) : Prop where
  previous : machine.previous = trail source none machine.place.before
  room : machine.stack.length ≤ limit
  flats : machine.log.filter Notice.isKeptFlat =
    machine.placed.filterMap (flatNotice? source limit)
  full : ∀ place token, ⟨place, .leaf token⟩ ∈ machine.placed → KeptFlat source place token →
    place.around.length = limit

namespace Steady

variable {machine : Machine} {token : Token}

theorem start (source : Text) (limit : Nat) : Steady source limit Machine.start :=
  ⟨rfl, Nat.zero_le limit, rfl, nofun⟩

theorem setStage (steady : machine.Steady source limit) (stage : Stage) :
    Steady source limit { machine with stage := stage } :=
  ⟨steady.previous, steady.room, steady.flats, steady.full⟩

/-- Other notices are not counted. -/
theorem note (steady : machine.Steady source limit) {notice : Notice}
    (other : notice.isKeptFlat = false) : (machine.note notice).Steady source limit := by
  refine ⟨steady.previous, steady.room, ?_, steady.full⟩
  rw [Machine.note, List.filter_append, steady.flats]
  simp [other, Machine.placed]

theorem setSingleLine (steady : machine.Steady source limit) (singleLine : Bool) :
    (machine.setSingleLine singleLine).Steady source limit := by
  obtain ⟨stage, stack, root, previous, log⟩ := machine
  cases stack with
  | nil => exact steady
  | cons frame outer => exact ⟨steady.previous, steady.room, steady.flats, steady.full⟩

theorem enter (steady : machine.Steady source limit) (kind : Kind)
    (room : machine.stack.length < limit) : (machine.enter kind).Steady source limit where
  previous := by
    rw [place_enter, Place.before_inside]
    exact steady.previous
  room := room
  flats := by
    rw [placed_enter]
    exact steady.flats
  full := by
    rw [placed_enter]
    exact steady.full

@[simp]
theorem log_attach (machine : Machine) (nodes : List Node) :
    (machine.attach nodes).log = machine.log := by
  unfold attach
  split <;> rfl

theorem leave (steady : machine.Steady source limit) (closed : Bool) :
    (machine.leave closed).Steady source limit := by
  have before : (machine.leave closed).place.before = machine.place.before := by
    rw [before_place, before_place, placed_leave]
  have log : (machine.leave closed).log = machine.log := by
    unfold Machine.leave
    split <;> simp
  have fewer : (machine.leave closed).stack.length ≤ machine.stack.length := by
    cases opened : machine.stack with
    | nil => simp [Machine.leave, opened]
    | cons frame outer =>
      rw [length_stack_leave opened]
      exact Nat.le_succ _
  constructor
  · rw [previous_leave, before]
    exact steady.previous
  · exact fewer.trans steady.room
  · rw [log, placed_leave]
    exact steady.flats
  · rw [placed_leave]
    exact steady.full

theorem unwind (steady : machine.Steady source limit) (closes : Kind → Bool)
    {notice : Kind → Notice} (other : ∀ kind, (notice kind).isKeptFlat = false) :
    (machine.unwind closes notice).Steady source limit := by
  fun_induction Machine.unwind closes notice machine with
  | case1 => exact steady
  | case2 => exact steady
  | case3 machine frame outer opened rejects inductionHypothesis =>
    exact inductionHypothesis ((steady.note (other _)).leave false)

/-- A token is placed with the notice that is due for it, and with no other. -/
theorem append_noting (steady : machine.Steady source limit) {notices : List Notice}
    (due : notices.filter Notice.isKeptFlat =
      (flatNotice? source limit ⟨machine.place, .leaf token⟩).toList)
    (full : KeptFlat source machine.place token → machine.stack.length = limit) :
    ({ machine with log := machine.log ++ notices }.append source token).Steady source limit where
  previous := by
    have before : Place.before (Machine.place ({ machine with log := machine.log ++ notices }.append
        source token)) = machine.place.before ++ [token] := by
      rw [place_append, Place.before_past]
      rfl
    rw [before, trail_append, previous_append, ← steady.previous]
    rfl
  room := by
    show (({ machine with log := machine.log ++ notices }.attach _).stack.length ≤ limit)
    rw [length_stack_attach]
    exact steady.room
  flats := by
    have log : ({ machine with log := machine.log ++ notices }.append source token).log =
        machine.log ++ notices := log_attach _ _
    have due_here (site : Site) : [site].filterMap (flatNotice? source limit) =
        (flatNotice? source limit site).toList := by
      cases found : flatNotice? source limit site <;> simp [found]
    rw [log, placed_append, List.filter_append, List.filterMap_append, due_here, due, steady.flats]
    rfl
  full := by
    intro place other member flat
    rw [placed_append] at member
    rcases List.mem_append.mp member with member | member
    · exact steady.full place other member flat
    · obtain ⟨rfl, same⟩ := Site.mk.inj (List.mem_singleton.mp member)
      obtain rfl := Node.leaf.inj same
      exact (length_around_placeIn _ _).trans (full flat)

/-- A token that is not kept flat is placed. -/
theorem append (steady : machine.Steady source limit)
    (raised : ¬ KeptFlat source machine.place token) :
    (machine.append source token).Steady source limit := by
  have placed : Steady source limit
      ({ machine with log := machine.log ++ [] }.append source token) := by
    apply steady.append_noting
    · simp [flatNotice?, raised]
    · exact fun flat => absurd flat raised
  simpa using placed

/-- A token that is kept flat is placed where as many blocks are open as may be, and noted. -/
theorem append_flat (steady : machine.Steady source limit) {word : String}
    (flat : KeptFlat source machine.place token) (spelled : role source token = .word word)
    (many : machine.stack.length = limit) :
    ((machine.note (.keptFlat limit word token.start)).append source token).Steady source
      limit := by
  apply steady.append_noting
  · simp [flatNotice?, flat, smallWord_of_role spelled, Notice.isKeptFlat]
  · exact fun _ => many

/-- A word that opens nothing is not kept flat. -/
theorem not_keptFlat (steady : machine.Steady source limit)
    (plain : ∀ word, (role source token).structural machine.previous = some word →
      word ∉ openers) : ¬ KeptFlat source machine.place token := by
  rw [steady.previous] at plain
  exact not_keptFlat_of_word plain

end Steady

/-! ## Blocks start with their openers -/

/-- All open blocks start with the words that have opened them. -/
def Opened (source : Text) (machine : Machine) : Prop :=
  ∀ frame ∈ machine.stack, ∃ opener rest, frame.children = .leaf opener :: rest ∧
    role source opener = .word frame.kind.opener

namespace Opened

variable {machine : Machine} {token : Token}

theorem attach (opened : machine.Opened source) (nodes : List Node) :
    (machine.attach nodes).Opened source := by
  obtain ⟨stage, stack, root, previous, log⟩ := machine
  cases stack with
  | nil => exact opened
  | cons frame outer =>
    obtain ⟨opener, rest, first, spelled⟩ := opened frame List.mem_cons_self
    refine List.forall_mem_cons.mpr ⟨⟨opener, rest ++ nodes, ?_, spelled⟩, ?_⟩
    · simp [first]
    · exact fun other member => opened other (List.mem_cons_of_mem _ member)

theorem append (opened : machine.Opened source) (token : Token) :
    (machine.append source token).Opened source :=
  opened.attach [.leaf token]

theorem leave (opened : machine.Opened source) (closed : Bool) :
    (machine.leave closed).Opened source := by
  unfold Machine.leave
  split
  · exact opened
  · rename_i frame outer stack
    have outside : Opened source { machine with stage := .body, stack := outer } :=
      fun other member => opened other (stack ▸ List.mem_cons_of_mem _ member)
    exact outside.attach _

theorem unwind (opened : machine.Opened source) (closes : Kind → Bool) (notice : Kind → Notice) :
    (machine.unwind closes notice).Opened source := by
  fun_induction Machine.unwind closes notice machine with
  | case1 => exact opened
  | case2 => exact opened
  | case3 machine frame outer stack rejects inductionHypothesis =>
    have noted : (machine.note (notice frame.kind)).Opened source := opened
    exact inductionHypothesis (noted.leave false)

theorem enter_append (opened : machine.Opened source) {kind : Kind}
    (spelled : role source token = .word kind.opener) :
    ((machine.enter kind).append source token).Opened source :=
  List.forall_mem_cons.mpr ⟨⟨token, [], rfl, spelled⟩, opened⟩

theorem setSingleLine (opened : machine.Opened source) (singleLine : Bool) :
    (machine.setSingleLine singleLine).Opened source := by
  obtain ⟨stage, stack, root, previous, log⟩ := machine
  cases stack with
  | nil => exact opened
  | cons frame outer => exact List.forall_mem_cons.mpr (List.forall_mem_cons.mp opened)

/-- The nodes in front of the place of a machine start with the opener of the block around. -/
theorem front (opened : machine.Opened source) {kind : Kind} (inside : machine.kind? = some kind) :
    ∃ opener rest, machine.place.front = .leaf opener :: rest ∧
      role source opener = .word kind.opener := by
  obtain ⟨stage, stack, root, previous, log⟩ := machine
  cases stack with
  | nil => contradiction
  | cons frame outer =>
    obtain rfl := Option.some.inj inside
    exact opened frame List.mem_cons_self

theorem front_ne_nil (opened : machine.Opened source) {kind : Kind}
    (inside : machine.kind? = some kind) : machine.place.front ≠ [] := by
  obtain ⟨opener, rest, front, -⟩ := opened.front inside
  rw [front]
  exact List.cons_ne_nil _ _

end Opened

end BrightBlocks.Block.Machine
