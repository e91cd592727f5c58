import BrightBlocks.Proofs.Block.ProgramLine

/-!
# What the lines of a program are made into

`Places` says of the lines of a body which nodes they are made into, wherever there is room for the
blocks in them. There is one rule for each form of line: every block is closed by its own closer
(`Places.block`), and a conditional on a single line takes in what follows in the same body
(`Places.oneLiner`).
-/

namespace BrightBlocks.Block

variable {source : Text} {limit : Nat} {machine : Machine} {inside : Option Kind} {kind : Kind}
  {front stop tokens rest : List Token} {stack : List Frame} {root : List Node}
  {log : List Notice}

/-- Lines of a body are made into nodes: they lead every machine that stands at the first of them,
with room for the blocks in them, to where the nodes are attached. -/
def Places (source : Text) (limit : Nat) (inside : Option Kind) (depth : Nat)
    (tokens : List Token) (nodes : List Node) : Prop :=
  ∀ (machine : Machine) (rest : List Token), machine.AtLine inside (tokens ++ rest) →
    machine.stack.length + depth ≤ limit → BodyEnds source inside rest →
      machine.LeadsTo source limit tokens rest nodes

namespace Places

variable {depth : Nat} {nodes : List Node}

theorem nil : Places source limit inside depth [] [] := by
  intro machine rest standing room ends
  refine ⟨machine.previous, machine.log, standing.fresh, ?_⟩
  rw [Machine.behind_nil, List.nil_append]

/-- A gap in front of a line changes nothing. -/
theorem indent {gap : Token} (blank : role source gap = .gap)
    (more : Places source limit inside depth tokens nodes) :
    Places source limit inside depth (gap :: tokens) (.leaf gap :: nodes) := by
  intro machine rest standing room ends
  have fresh := standing.fresh (List.cons_ne_nil _ _)
  have placed : machine.append source gap = machine.behind [.leaf gap] none machine.log := by
    rw [Machine.append, blank, fresh]
    obtain ⟨stage, stack, root, previous, log⟩ := machine
    cases stack <;> rfl
  have wordless : (role source gap).word? = none := by
    rw [blank]
    rfl
  have run : machine.run source limit ([gap] ++ (tokens ++ rest)) =
      (machine.behind [.leaf gap] none machine.log).run source limit (tokens ++ rest) := by
    rw [← placed]
    exact run_token_of_plain standing.stands (by simp [structural_of_no_word wordless]) _
  exact .of_run run (more _ rest (standing.behind _ _ fun _ => rfl) (by simpa using room) ends)

/-- A line that shapes nothing becomes leaves. -/
theorem line (clear : Clear source shapingWords none front)
    (stops : LineStop source inside stop tokens)
    (more : Places source limit inside depth tokens nodes) :
    Places source limit inside depth (front ++ (stop ++ tokens))
      (leafNodes (front ++ stop) ++ nodes) := by
  intro machine rest standing room ends
  simp only [List.append_assoc] at standing
  obtain ⟨previous, fresh, run⟩ := stops.run_eq limit ends standing.stands
    (standing.spares clear.spares)
  rw [← List.append_assoc] at run ⊢
  exact .of_run run (more _ rest (standing.behind _ _ fresh) (by simpa using room) ends)

/-- The line of a branch becomes leaves. -/
theorem branch (starts : BranchLine source front)
    (more : Places source limit (some .conditional) depth tokens nodes) :
    Places source limit (some .conditional) depth (front ++ tokens)
      (leafNodes front ++ nodes) := by
  intro machine rest standing room ends
  have run : machine.run source limit (front ++ (tokens ++ rest)) =
      (machine.behind (leafNodes front) none machine.log).run source limit (tokens ++ rest) := by
    obtain ⟨stage, stack, root, previous, log⟩ := machine
    obtain ⟨stands, fresh, within⟩ := standing
    obtain rfl : stage = .body := stands
    obtain rfl : previous = none := fresh (by simp [starts.ne_nil])
    cases stack with
    | nil => exact absurd (within rfl) nofun
    | cons frame outer =>
      obtain ⟨kind, children, singleLine⟩ := frame
      obtain rfl : kind = .conditional := Option.some.inj (within rfl)
      exact starts.run_eq _
  exact .of_run run (more _ rest (standing.behind _ _ fun _ => rfl) (by simpa using room) ends)

/-- A conditional on a single line takes in what follows in the same body. -/
theorem oneLiner {opener word : Token} {condition statement : List Token}
    (outside : inside ≠ some .conditional) (opens : role source opener = .word "if")
    (tested : Clear source (endingWords .opening .conditional) (some "if") condition)
    (leads : (role source word).structural (trail source (some "if") condition) = some "then")
    (acts : codeOnLine source statement = true)
    (clear : Clear source shapingWords (some "then") statement)
    (stops : LineStop source inside stop tokens)
    (more : Places source limit inside depth tokens nodes) :
    Places source limit inside (depth + 1)
      (opener :: (condition ++ word :: (statement ++ (stop ++ tokens))))
      [.block .conditional
        (leafNodes (opener :: (condition ++ word :: (statement ++ stop))) ++ nodes) false
        true] := by
  intro machine rest standing room ends
  obtain ⟨stage, stack, root, previous, log⟩ := machine
  obtain ⟨stands, fresh, -⟩ := standing
  obtain rfl : stage = .body := stands
  obtain rfl : previous = none := fresh (List.cons_ne_nil _ _)
  have room : stack.length + (depth + 1) ≤ limit := room
  let opened : Machine := ⟨.body, ⟨.conditional, leafNodes (opener :: (condition ++ [word])),
    true⟩ :: stack, root, some "then", log⟩
  have header := run_oneLiner root log opens tested leads acts (show stack.length < limit by omega)
    (stop ++ (tokens ++ rest))
  have stands : opened.stage = .body := rfl
  obtain ⟨last, begins, line⟩ := stops.run_eq limit ends stands clear.spares
  have behind : (opened.behind (leafNodes (statement ++ stop)) last log).AtLine inside
      (tokens ++ rest) := ⟨rfl, begins, fun same => absurd same outside⟩
  obtain ⟨final, notices, fresh', further⟩ := more _ rest behind
    (by rw [Machine.length_stack_behind]; simp only [opened, List.length_cons]; omega) ends
  rw [Machine.behind_behind] at further
  obtain ⟨notice, left⟩ := ends.run_left_open limit
    (opened.behind (leafNodes (statement ++ stop) ++ nodes) final notices) outside rfl fresh' rfl
    rfl
  refine ⟨final, notices ++ [notice], fresh', ?_⟩
  simp only [List.cons_append, List.append_assoc]
  rw [header]
  refine line.trans (further.trans (left.trans (congrArg (Machine.run source limit · rest) ?_)))
  cases stack <;>
    simp [opened, Machine.behind, Machine.attach, Machine.note, Machine.leave, leafNodes]

/-- A block on lines of its own is closed by its own closer. -/
theorem block {opener : Token} {header body back tail : List Token} {children : List Node}
    (opens : role source opener = .word kind.opener)
    (headed : FrontLine source kind .opening (some kind.opener) header)
    (nested : Places source limit (some kind) depth body children)
    (closes : Closing source kind back)
    (clear : Clear source shapingWords (trail source none back) tail)
    (stops : LineStop source inside stop tokens)
    (more : Places source limit inside (depth + 1) tokens nodes) :
    Places source limit inside (depth + 1)
      (opener :: (header ++ (body ++ (back ++ (tail ++ (stop ++ tokens))))))
      (.block kind (leafNodes (opener :: header) ++ children ++ leafNodes back) true false ::
        (leafNodes (tail ++ stop) ++ nodes)) := by
  intro machine rest standing room ends
  have here := standing
  obtain ⟨stage, stack, root, previous, log⟩ := machine
  obtain ⟨stands, fresh, within⟩ := standing
  obtain rfl : stage = .body := stands
  obtain rfl : previous = none := fresh (List.cons_ne_nil _ _)
  have room : stack.length + (depth + 1) ≤ limit := room
  let opened : Machine :=
    ⟨.body, ⟨kind, leafNodes (opener :: header), false⟩ :: stack, root, none, log⟩
  have inside_line : opened.AtLine (some kind)
      (body ++ (back ++ (tail ++ (stop ++ (tokens ++ rest))))) := ⟨rfl, fun _ => rfl, id⟩
  obtain ⟨last, notices, begins, read⟩ := nested opened _ inside_line
    (by simp only [opened, List.length_cons]; omega) (.closer closes _)
  obtain rfl : last = none := begins (by simp [closes.ne_nil])
  let closed : Machine := Machine.behind ⟨.body, stack, root, none, log⟩
    [.block kind (leafNodes (opener :: header) ++ children ++ leafNodes back) true false]
    (trail source none back) notices
  have left : Machine.leave ⟨.body, ⟨kind, leafNodes (opener :: header) ++ children ++
      leafNodes back, false⟩ :: stack, root, trail source none back, notices⟩ true = closed := by
    cases stack <;> rfl
  have stands : closed.stage = .body := Machine.stage_behind
  obtain ⟨final, fresh', line⟩ := stops.run_eq limit ends stands clear.spares
  have run : Machine.run source limit ⟨.body, stack, root, none, log⟩
      (opener :: (header ++ (body ++ (back ++ (tail ++ (stop ++ (tokens ++ rest))))))) =
        (closed.behind (leafNodes (tail ++ stop)) final notices).run source limit
          (tokens ++ rest) := by
    rw [run_header_line opens headed (by omega)]
    refine read.trans (Eq.trans ?_ line)
    exact (closes.run_eq _).trans (congrArg (Machine.run source limit · _) left)
  rw [Machine.behind_behind, List.singleton_append] at run
  have next := here.behind (.block kind (leafNodes (opener :: header) ++ children ++ leafNodes back)
    true false :: leafNodes (tail ++ stop)) notices fresh'
  obtain ⟨last, notices', begins', further⟩ := more _ rest next (by simpa using room) ends
  rw [Machine.behind_behind] at further
  refine ⟨last, notices', begins', ?_⟩
  simpa only [List.cons_append, List.append_assoc] using run.trans further

end Places

end BrightBlocks.Block
