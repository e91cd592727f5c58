import BrightBlocks.Proofs.Block.BodyPoise

/-!
# Every token is read soundly

A header goes on until a line break or a word that ends it, and what is behind an `else` or an
`end` is what these have looked at. With the bodies, all stages of a machine are sound, hence all
its runs (`Machine.Sound.feed`).
-/

namespace BrightBlocks.Block.Machine

variable {source : Text} {limit : Nat} {machine after : Machine} {token : Token}
  {rest : List Token} {kind : Kind}

/-! ## Headers and conditions -/

theorem mem_endingWords_iff {phase : Phase} {word : String} :
    word ∈ endingWords phase kind ↔
      (word = "then" ∧ kind = .conditional) ∨ word ∈ phase.boundaries kind := by
  unfold endingWords
  split <;> simp_all

/-- A token that ends no header or condition is placed in it. -/
theorem sound_of_plain_front {phase : Phase} (sound : machine.Sound source limit (token :: rest))
    (stands : machine.stage = .front phase) (inside : machine.kind? = some kind)
    (unbroken : role source token ≠ .lineBreak)
    (plain : ∀ word, (role source token).structural machine.previous = some word →
      word ∉ endingWords phase kind) :
    Sound source limit (machine.append source token) rest := by
  obtain ⟨steady, opened, poised⟩ := sound
  have barred {word : String} (listed : word ∈ phase.boundaries kind) :
      (role source token).structural machine.previous ≠ some word :=
    fun found => plain word found (mem_endingWords_iff.mpr (.inr listed))
  have raised : ¬ KeptFlat source machine.place token :=
    steady.not_keptFlat fun word found listed =>
      barred (openers_sub_boundaries phase kind word listed) found
  have header := poised.header kind inside
  rw [stands] at header
  have no_branch : ¬ EndsInElse source (machine.place.past [.leaf token]) := by
    cases phase with
    | opening =>
      rw [endsInElse_past_leaf, kind?_place]
      rintro ⟨conditional, -, ended⟩
      obtain rfl := Option.some.inj (inside.symm.trans conditional)
      exact ended (header.mp rfl)
    | condition =>
      exact no_branch_past steady fun _ => barred (by simp [Phase.boundaries, conditionBoundaries])
  have goes_on : Stage.front phase = .front .opening ↔
      HeaderUnended source kind (machine.place.front ++ [.leaf token]) := by
    cases phase with
    | opening =>
      have unended := header.mp rfl
      rw [headerUnended_append_leaf (opened.front_ne_nil inside),
        headerTrail_eq steady opened inside unended]
      exact iff_of_true rfl ⟨unended, unbroken, plain⟩
    | condition =>
      exact iff_of_false nofun
        (header_ended_before opened inside fun unended => nomatch header.mpr unended)
  refine ⟨steady.append raised, opened.append token, ?_⟩
  refine .of_past (place_append ..) (fun other found => ?_) (by simp [stands])
    (iff_of_false (by simp [stands]) fun awaits => ?_)
  · obtain rfl := Option.some.inj (inside.symm.trans found)
    rw [stage_append, stands]
    exact goes_on
  · have waiting := poised.awaits.mpr (awaits.of_past no_branch)
    simp [stands] at waiting

/-- A header or a condition is read soundly. -/
theorem FrontStep.sound {phase : Phase} {next : List Token}
    (step : FrontStep source limit phase machine token next after)
    (same : roleOnLine source next = roleOnLine source rest)
    (sound : machine.Sound source limit (token :: rest)) (stands : machine.stage = .front phase)
    (inside : machine.kind? = some kind) : after.Sound source limit rest := by
  obtain ⟨steady, opened, poised⟩ := id sound
  have idle : ¬ AwaitsIf source machine.place (token :: rest) := by
    rw [← poised.awaits, stands]
    exact nofun
  have ended (ends : role source token = .lineBreak ∨
      ∃ word, (role source token).structural machine.previous = some word ∧
        word ∈ endingWords .opening kind) :
      ∀ other, machine.kind? = some other →
        ¬ HeaderUnended source other (machine.place.front ++ [.leaf token]) := by
    intro other found
    obtain rfl := Option.some.inj (inside.symm.trans found)
    exact header_ended_by steady opened inside ends
  cases step with
  | plain unbroken goes_on =>
    refine sound_of_plain_front sound stands inside unbroken fun word found listed => ?_
    obtain ⟨no_then, no_boundary⟩ := goes_on word kind found inside
    exact (mem_endingWords_iff.mp listed).elim no_then no_boundary
  | lineBreak breaks =>
    have no_word : (role source token).structural machine.previous = none := by
      rw [breaks]
      exact structural_of_no_word rfl _
    have raised : ¬ KeptFlat source machine.place token :=
      steady.not_keptFlat (by simp [no_word])
    refine ⟨(steady.append raised).setStage .body, opened.append token, ?_⟩
    exact .of_body steady idle (ended (.inl breaks)) (by simp [no_word])
      (machine.place_append source token) rfl
  | @atThen flagged found conditional flags =>
    obtain ⟨steady', opened', place, previous⟩ : flagged.Steady source limit ∧
        flagged.Opened source ∧ flagged.place = machine.place ∧
          flagged.previous = machine.previous := by
      rcases flags with rfl | ⟨singleLine, rfl⟩
      · exact ⟨steady, opened, rfl, rfl⟩
      · exact ⟨steady.setSingleLine _, opened.setSingleLine _, place_setSingleLine ..,
          previous_setSingleLine ..⟩
    obtain rfl := Option.some.inj (inside.symm.trans conditional)
    have raised : ¬ KeptFlat source flagged.place token :=
      steady'.not_keptFlat (by rw [previous, found]; simp; decide)
    refine ⟨(steady'.append raised).setStage .body, opened'.append token, ?_⟩
    refine .of_body steady idle (ended (.inr ⟨_, found, mem_endingWords_iff.mpr (.inl ⟨rfl, rfl⟩)⟩))
      (by simp [found]) ?_ rfl
    exact (flagged.place_append source token).trans (by rw [place])
  | @cutShort word other found within boundary =>
    obtain rfl := Option.some.inj (inside.symm.trans within)
    have step : BodyStep source limit
        { machine.note (.headerCutShort kind word token.start) with stage := .body } token next _ :=
      bodyStep_readBody _ token next
    refine step.sound same ((steady.note rfl).setStage .body) opened rfl idle ?_
    have header := poised.header kind inside
    cases phase with
    | opening => exact ended (.inr ⟨word, found, mem_endingWords_iff.mpr (.inr boundary)⟩)
    | condition =>
      intro other same
      obtain rfl := Option.some.inj (inside.symm.trans same)
      rw [stands] at header
      exact header_ended_before opened inside fun unended => nomatch header.mpr unended

/-! ## Behind an `else` and behind an `end` -/

/-- What is behind an `else` that goes on is the gap or the `if` that was looked at. -/
theorem sound_of_elseIf (sound : machine.Sound source limit (token :: rest))
    (stands : machine.stage = .elseIf) :
    Sound source limit { machine.append source token with
      stage := if role source token = .gap then .elseIf else .front .condition } rest := by
  obtain ⟨steady, opened, poised⟩ := sound
  have awaits := poised.awaits.mp stands
  have header (kind : Kind) (inside : machine.kind? = some kind) :
      ¬ HeaderUnended source kind (machine.place.front ++ [.leaf token]) := by
    refine header_ended_before opened inside fun unended => ?_
    have opening := (poised.header kind inside).mpr unended
    simp [stands] at opening
  by_cases blank : role source token = .gap
  · have raised : ¬ KeptFlat source machine.place token := by
      refine steady.not_keptFlat fun word found => ?_
      rw [role_of_structural found] at blank
      contradiction
    rw [if_pos blank]
    refine ⟨(steady.append raised).setStage _, opened.append token, ?_⟩
    exact .of_past (machine.place_append source token)
      (fun kind inside => iff_of_false nofun (header kind inside)) nofun
      (iff_of_true rfl ((awaitsIf_past_gap blank).mpr awaits))
  · have spelled := awaits.role_eq blank
    have raised : ¬ KeptFlat source machine.place token := by
      rintro ⟨kind, -, found, -, apart⟩
      have same := role_of_structural found
      rw [spelled, Role.word.injEq] at same
      have conditional : kind = .conditional := @opener_injective kind .conditional same.symm
      exact apart ⟨conditional, (awaitsIf_of_if spelled).mp awaits⟩
    have no_branch : ¬ EndsInElse source (machine.place.past [.leaf token]) := by
      refine no_branch_past steady fun _ found => ?_
      have same := role_of_structural found
      simp [spelled] at same
    rw [if_neg blank]
    refine ⟨(steady.append raised).setStage _, opened.append token, ?_⟩
    refine .of_past (machine.place_append source token)
      (fun kind inside => iff_of_false nofun (header kind inside)) nofun ?_
    rw [awaitsIf_past_solid blank]
    exact iff_of_false nofun fun awaits => no_branch awaits.1

/-- What is behind an `end` that closes a block is a gap, or the word that completes it. -/
theorem sound_of_closing (sound : machine.Sound source limit (token :: rest))
    (stands : machine.stage = .closing) (anchored : machine.Anchored) :
    Sound source limit (if role source token = .gap then machine.append source token
      else (machine.append source token).leave true) rest := by
  obtain ⟨steady, opened, poised⟩ := sound
  have ending := poised.closing stands
  have no_word : (role source token).structural machine.previous = none := by
    rw [ending]
    exact if_pos (by decide)
  have raised : ¬ KeptFlat source machine.place token := steady.not_keptFlat (by simp [no_word])
  by_cases blank : role source token = .gap
  · rw [if_pos blank]
    refine ⟨steady.append raised, opened.append token, ?_⟩
    refine .of_past (place_append ..) (fun kind inside => ?_) (fun _ => ?_) ?_
    · refine iff_of_false (by simp [stands]) (header_ended_before opened inside fun unended => ?_)
      have opening := (poised.header kind inside).mpr unended
      simp [stands] at opening
    · rw [previous_append, blank, ending]
      rfl
    · rw [awaitsIf_past_gap blank, ← poised.awaits, stage_append]
  · rw [if_neg blank]
    refine ⟨(steady.append raised).leave true, (opened.append token).leave true, ?_⟩
    have still_open : (machine.append source token).stack ≠ [] := by
      rw [Ne, stack_append_eq_nil]
      exact anchored (by simp [stands])
    obtain ⟨frame, outer, stack⟩ := List.exists_cons_of_ne_nil still_open
    exact .of_leave stack true rest

/-! ## Runs -/

/-- Every token is read soundly. -/
theorem Sound.read (sound : machine.Sound source limit (token :: rest))
    (anchored : machine.Anchored) {next : List Token}
    (same : roleOnLine source next = roleOnLine source rest) :
    Sound source limit (machine.read source limit token next) rest := by
  unfold Machine.read
  split
  · rename_i phase stands
    have within := anchored (by simp [stands])
    obtain ⟨frame, outer, stack⟩ := List.exists_cons_of_ne_nil within
    have inside : machine.kind? = some frame.kind := by simp [kind?, stack]
    exact (frontStep_readFront machine phase token next).sound same sound stands inside
  · rename_i stands
    exact sound_of_elseIf sound stands
  · rename_i stands
    exact sound_of_closing sound stands anchored
  · rename_i stands
    have idle : ¬ AwaitsIf source machine.place (token :: rest) := by
      rw [← sound.poised.awaits, stands]
      intro impossible
      contradiction
    have step : BodyStep source limit machine token next _ := bodyStep_readBody machine token next
    refine step.sound same sound.steady sound.opened stands idle ?_
    intro kind inside
    refine header_ended_before sound.opened inside fun unended => ?_
    have opening := (sound.poised.header kind inside).mpr unended
    simp [stands] at opening

theorem Sound.feed {tokens : List Token} (sound : machine.Sound source limit tokens)
    (anchored : machine.Anchored) :
    Sound source limit (machine.feed source limit [] tokens) [] := by
  induction tokens generalizing machine with
  | nil => exact sound
  | cons token rest inductionHypothesis =>
    exact inductionHypothesis (sound.read anchored (by simp)) (anchored.read token _)

theorem Sound.start (source : Text) (limit : Nat) (ahead : List Token) :
    Sound source limit Machine.start ahead :=
  ⟨.start source limit, nofun, .of_nothing_open rfl rfl ahead⟩

end BrightBlocks.Block.Machine
