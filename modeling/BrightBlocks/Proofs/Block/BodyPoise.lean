import BrightBlocks.Proofs.Block.Poise

/-!
# A body is read soundly

A token of a body is plain, starts a branch, starts or is a terminator, or is an opener, for
which there is room or not. Whatever it is, the machine stays sound (`Machine.BodyStep.sound`),
provided that the token is behind the header and that no `else` waits for it.
-/

namespace BrightBlocks.Block.Machine

variable {source : Text} {limit : Nat} {machine after : Machine} {token : Token}
  {rest : List Token} {kind : Kind}

/-- Where an else word leads, by whether an `if` is waited for then. -/
theorem stageOfElse_eq_elseIf_iff {word : String} {next : List Token} :
    stageOfElse source word next = .elseIf ↔
      word = "else" ∧ roleOnLine source next = .word "if" := by
  unfold stageOfElse
  split
  · rename_i joined
    simp [joined]
  · rename_i is_else
    split <;> simp_all

theorem stageOfElse_ne (source : Text) (word : String) (next : List Token) :
    stageOfElse source word next ≠ .front .opening ∧ stageOfElse source word next ≠ .closing := by
  unfold stageOfElse
  repeat' split
  all_goals simp

theorem sound_of_branch {word : String} {next : List Token}
    (same : roleOnLine source next = roleOnLine source rest)
    (steady : machine.Steady source limit) (opened : machine.Opened source)
    (ended : ∀ kind, machine.kind? = some kind →
      ¬ HeaderUnended source kind (machine.place.front ++ [.leaf token]))
    (conditional : machine.kind? = some .conditional)
    (found : (role source token).structural machine.previous = some word)
    (listed : word ∈ elseWords) :
    Sound source limit { machine.append source token with stage := stageOfElse source word next }
      rest := by
  have raised : ¬ KeptFlat source machine.place token := by
    apply steady.not_keptFlat
    intro other same
    obtain rfl := Option.some.inj (found.symm.trans same)
    exact else_not_opener word listed
  have solid : role source token ≠ .gap := by simp [role_of_structural found]
  obtain ⟨no_header, no_end⟩ := stageOfElse_ne source word next
  refine ⟨(steady.append raised).setStage _, opened.append token, ?_⟩
  refine .of_past (machine.place_append source token) (fun kind inside => ?_)
    (fun closing => absurd closing no_end) ?_
  · exact iff_of_false no_header (ended kind inside)
  · show stageOfElse source word next = .elseIf ↔ _
    rw [stageOfElse_eq_elseIf_iff, awaitsIf_past_solid solid, same]
    refine and_congr_left fun _ => ⟨?_, fun branch => ?_⟩
    · rintro rfl
      exact branch_past steady opened conditional found (ended _ conditional)
    · have meaning := (endsInElse_past_leaf.mp branch).2.1
      rw [← steady.previous, found] at meaning
      exact Option.some.inj meaning

theorem end_mem_endingWords (kind : Kind) : "end" ∈ endingWords .opening kind := by
  cases kind <;> decide

/-- An `end` that starts a terminator is placed in the block that it closes. -/
theorem sound_of_end (steady : machine.Steady source limit) (opened : machine.Opened source)
    (found : (role source token).structural machine.previous = some "end") :
    Sound source limit { machine.append source token with stage := .closing } rest := by
  have spelled := role_of_structural found
  have raised : ¬ KeptFlat source machine.place token :=
    steady.not_keptFlat (by simp [found]; decide)
  have no_branch : ¬ EndsInElse source (machine.place.past [.leaf token]) :=
    no_branch_past steady (by simp [found])
  refine ⟨(steady.append raised).setStage _, opened.append token, ?_⟩
  refine .of_past (machine.place_append source token) (fun kind inside => ?_) (fun _ => ?_) ?_
  · exact iff_of_false nofun (header_ended_by steady opened inside
      (.inr ⟨"end", found, end_mem_endingWords kind⟩))
  · show (role source token).follow machine.previous = some "end"
    rw [spelled]
    rfl
  · rw [awaitsIf_past_solid (by simp [spelled])]
    exact iff_of_false nofun fun awaits => no_branch awaits.1

/-- A closing word leaves the block that it closes, if it closes one. -/
theorem sound_of_closer {word : String} (steady : machine.Steady source limit)
    (opened : machine.Opened source) (stands : machine.stage = .body)
    (found : (role source token).structural machine.previous = some word)
    (listed : word ∈ closers) :
    Sound source limit ((machine.append source token).leave true) rest := by
  have raised : ¬ KeptFlat source machine.place token := by
    apply steady.not_keptFlat
    intro other same
    obtain rfl := Option.some.inj (found.symm.trans same)
    exact closer_not_opener word listed
  refine ⟨(steady.append raised).leave true, (opened.append token).leave true, ?_⟩
  cases stack : (machine.append source token).stack with
  | cons frame outer => exact .of_leave stack true rest
  | nil =>
    have unmoved : (machine.append source token).leave true = machine.append source token := by
      simp only [leave, stack]
    rw [unmoved]
    exact .of_nothing_open ((stage_append ..).trans stands) stack rest

theorem opener_injective {kind kind' : Kind} (same : kind.opener = kind'.opener) :
    kind = kind' := by
  have opens := ofOpener?_opener kind
  rw [same, ofOpener?_opener] at opens
  exact (Option.some.inj opens).symm

/-- An opener opens its block where there is room. -/
theorem sound_of_opener {word : String} (steady : machine.Steady source limit)
    (opened : machine.Opened source)
    (found : (role source token).structural machine.previous = some word)
    (opens : Kind.ofOpener? word = some kind) (room : machine.stack.length < limit) :
    Sound source limit ((machine.enter kind).append source token) rest := by
  obtain ⟨-, rfl⟩ := opener_of_ofOpener? opens
  have spelled := role_of_structural found
  have entered := steady.enter kind room
  have first : (machine.enter kind).place.front = [] := by rw [place_enter]; rfl
  have raised : ¬ KeptFlat source (machine.enter kind).place token := by
    rintro ⟨kind', -, meaning, not_first, -⟩
    rw [← entered.previous] at meaning
    obtain rfl := opener_injective (Option.some.inj (found.symm.trans meaning))
    exact not_first ⟨first, kind?_place _⟩
  have no_else : kind.opener ≠ "else" := by cases kind <;> decide
  have no_branch : ¬ EndsInElse source ((machine.enter kind).place.past [.leaf token]) := by
    refine no_branch_past entered fun _ meaning => no_else ?_
    exact Option.some.inj (found.symm.trans meaning)
  refine ⟨entered.append raised, opened.enter_append spelled, ?_⟩
  refine .of_past (place_append ..) (fun kind' inside => ?_) nofun ?_
  · rw [first]
    exact iff_of_true rfl (headerUnended_opener source kind' token)
  · rw [awaitsIf_past_solid (by simp [spelled])]
    exact iff_of_false nofun fun awaits => no_branch awaits.1

/-- An opener that is not the `if` of an `else` is kept flat where there is no room. -/
theorem sound_of_flat {word : String} (steady : machine.Steady source limit)
    (opened : machine.Opened source) (stands : machine.stage = .body)
    (idle : ¬ AwaitsIf source machine.place (token :: rest))
    (ended : ∀ kind, machine.kind? = some kind →
      ¬ HeaderUnended source kind (machine.place.front ++ [.leaf token]))
    (found : (role source token).structural machine.previous = some word)
    (opens : Kind.ofOpener? word = some kind) (full : ¬ machine.stack.length < limit) :
    Sound source limit ((machine.note (.keptFlat limit word token.start)).append source token)
      rest := by
  obtain ⟨listed, rfl⟩ := opener_of_ofOpener? opens
  have spelled := role_of_structural found
  have many : machine.stack.length = limit := Nat.le_antisymm steady.room (Nat.not_lt.mp full)
  have flat : KeptFlat source machine.place token := by
    refine ⟨kind, listed, steady.previous ▸ found, fun first => ?_, fun behind => ?_⟩
    · exact opened.front_ne_nil ((kind?_place machine).symm.trans first.2) first.1
    · obtain ⟨rfl, behind⟩ := behind
      exact idle ((awaitsIf_of_if spelled).mpr behind)
  have no_else : kind.opener ≠ "else" := by cases kind <;> decide
  have noted : Opened source (machine.note (.keptFlat limit kind.opener token.start)) := opened
  refine ⟨steady.append_flat flat spelled many, noted.append token, ?_⟩
  refine .of_body steady idle ended ?_ (place_append ..) ((stage_append ..).trans stands)
  exact fun _ meaning => no_else (Option.some.inj (found.symm.trans meaning))

/-- A body is read soundly where nothing is waited for and the token is behind the header. -/
theorem BodyStep.sound {next : List Token} (step : BodyStep source limit machine token next after)
    (same : roleOnLine source next = roleOnLine source rest)
    (steady : machine.Steady source limit) (opened : machine.Opened source)
    (stands : machine.stage = .body) (idle : ¬ AwaitsIf source machine.place (token :: rest))
    (ended : ∀ kind, machine.kind? = some kind →
      ¬ HeaderUnended source kind (machine.place.front ++ [.leaf token])) :
    after.Sound source limit rest := by
  cases step with
  | plain shapeless =>
    have raised : ¬ KeptFlat source machine.place token :=
      steady.not_keptFlat fun word found => (shapeless word found).2
    refine ⟨steady.append raised, opened.append token, ?_⟩
    refine .of_body steady idle ended ?_ (place_append ..) ((stage_append ..).trans stands)
    exact fun conditional found => (shapeless _ found).1 conditional (by decide)
  | branch conditional found listed =>
    exact sound_of_branch same steady opened ended conditional found listed
  | @strayEnd closes found outside =>
    have reached := steady.unwind closes fun kind => by
      show (Notice.deferredEnd kind token.start).isKeptFlat = false
      rfl
    have raised : ¬ KeptFlat source (machine.unwind closes _).place token :=
      reached.not_keptFlat (by simp [found]; decide)
    refine ⟨reached.append raised, (opened.unwind _ _).append token, ?_⟩
    refine .of_nothing_open ?_ (by rwa [stack_append_eq_nil]) rest
    rw [stage_append, stage_unwind stands]
  | @ownEnd closes kind still_open names found =>
    have reached := steady.unwind closes fun kind => by
      show (Notice.deferredEnd kind token.start).isKeptFlat = false
      rfl
    exact sound_of_end reached (opened.unwind _ _) (by rwa [previous_unwind])
  | @closer word found listed =>
    have reached := steady.unwind (fun kind => word ∈ kind.closers) fun kind => by
      show (Notice.deferredCloser kind word token.start).isKeptFlat = false
      rfl
    exact sound_of_closer reached (opened.unwind _ _) (stage_unwind stands _ _)
      (by rwa [previous_unwind]) listed
  | opener found opens room => exact sound_of_opener steady opened found opens room
  | flat found opens full => exact sound_of_flat steady opened stands idle ended found opens full

end BrightBlocks.Block.Machine
