import BrightBlocks.Proofs.Block.Openers
import BrightBlocks.Proofs.Block.Standing

/-!
# Openers that open nothing

A leaf is kept flat where it contributes an opener to the structure, is not the first leaf
of a block that it has opened, and is not the `if` of an `else if`. `KeptFlat` says so by
the place of the leaf alone, that is by what stands in front of it; neither the nesting limit
nor the notices are mentioned. `flatNotice?` is the notice that such a leaf is to have.

An `else` starts a branch unless it stands in the header of the conditional itself, so
whether that header has ended is part of the question (`HeaderUnended`). In
`if x else if y` the second `if` is an opener like any other.
-/

namespace BrightBlocks

namespace Place

/-- The leaf right in front of a place, if a leaf stands there. -/
def last? (place : Place) : Option Token :=
  place.front.getLast?.bind Node.leaf?

/-- The place of the node right in front of a place. -/
def back (place : Place) : Place :=
  { place with front := place.front.dropLast }

variable (place : Place) (token : Token)

@[simp]
theorem last?_past_leaf : (place.past [.leaf token]).last? = some token := by
  simp [last?, past, Node.leaf?]

@[simp]
theorem back_past_leaf : (place.past [.leaf token]).back = place := by
  simp [back, past]

@[simp]
theorem last?_past_block (kind : Block.Kind) (children : List Node) (closed singleLine : Bool) :
    (place.past [.block kind children closed singleLine]).last? = none := by
  simp [last?, past, Node.leaf?]

@[simp]
theorem kind?_past (nodes : List Node) : (place.past nodes).kind? = place.kind? := rfl

end Place

namespace Block

/-! ## Headers that have not ended -/

/-- The last significant word behind the first nodes of a block, when they are leaves. -/
def headerTrail (source : Text) (kind : Kind) (front : List Node) : Option String :=
  trail source (some kind.opener) (front.filterMap Node.leaf?).tail

/-- The first nodes of a block are its opener and leaves none of which ends the header. -/
structure HeaderUnended (source : Text) (kind : Kind) (front : List Node) : Prop where
  leaves : ∀ node ∈ front, node.leaf?.isSome = true
  clear : Clear source (endingWords .opening kind) (some kind.opener)
    (front.filterMap Node.leaf?).tail

instance (source : Text) (kind : Kind) (front : List Node) :
    Decidable (HeaderUnended source kind front) :=
  decidable_of_iff
    ((∀ node ∈ front, node.leaf?.isSome = true) ∧ Clear source (endingWords .opening kind)
      (some kind.opener) (front.filterMap Node.leaf?).tail)
    ⟨fun both => ⟨both.1, both.2⟩, fun unended => ⟨unended.leaves, unended.clear⟩⟩

theorem spares_append_singleton {source : Text} {barred : List String} {tokens : List Token}
    {token : Token} (previous : Option String) :
    Spares source barred previous (tokens ++ [token]) ↔ Spares source barred previous tokens ∧
      ∀ word ∈ (role source token).structural (trail source previous tokens), word ∉ barred := by
  induction tokens generalizing previous with
  | nil => simp [Spares]
  | cons first rest inductionHypothesis =>
    rw [List.cons_append, Spares, Spares, inductionHypothesis, trail_cons, and_assoc]

theorem clear_append_singleton {source : Text} {barred : List String} {tokens : List Token}
    {token : Token} {previous : Option String} :
    Clear source barred previous (tokens ++ [token]) ↔ Clear source barred previous tokens ∧
      role source token ≠ .lineBreak ∧
        ∀ word ∈ (role source token).structural (trail source previous tokens), word ∉ barred := by
  constructor
  · rintro ⟨unbroken, spares⟩
    obtain ⟨front, plain⟩ := (spares_append_singleton previous).mp spares
    exact ⟨⟨fun other member => unbroken other (List.mem_append_left _ member), front⟩,
      unbroken token (List.mem_append_right _ List.mem_cons_self), plain⟩
  · rintro ⟨⟨unbroken, spares⟩, solid, plain⟩
    refine ⟨?_, (spares_append_singleton previous).mpr ⟨spares, plain⟩⟩
    simpa [or_imp, forall_and] using ⟨unbroken, solid⟩

section

variable {source : Text} {kind : Kind} {front : List Node} {token : Token}

/-- The tokens of leaves are those of the nodes, one by one. -/
theorem leaves_eq_filterMap {front : List Node}
    (only : ∀ node ∈ front, node.leaf?.isSome = true) :
    Forest.leaves front = front.filterMap Node.leaf? := by
  induction front with
  | nil => rfl
  | cons node rest inductionHypothesis =>
    obtain ⟨first, others⟩ := List.forall_mem_cons.mp only
    cases node with
    | leaf token => simp [Node.leaf?, inductionHypothesis others]
    | block => simp [Node.leaf?] at first

/-- A block inside ends the header. -/
theorem not_headerUnended_of_block (source : Text) (kind inner : Kind) (front children : List Node)
    (closed singleLine : Bool) :
    ¬ HeaderUnended source kind (front ++ [.block inner children closed singleLine]) := by
  intro unended
  have leaf := unended.leaves _ (List.mem_append_right front List.mem_cons_self)
  simp [Node.leaf?] at leaf

theorem headerUnended_opener (source : Text) (kind : Kind) (token : Token) :
    HeaderUnended source kind [.leaf token] := by
  constructor
  · simp [Node.leaf?]
  · exact ⟨List.forall_mem_nil _, trivial⟩

/-- A header goes on by a leaf that does not end it. -/
theorem headerUnended_append_leaf (started : front ≠ []) :
    HeaderUnended source kind (front ++ [.leaf token]) ↔
      HeaderUnended source kind front ∧ role source token ≠ .lineBreak ∧
        ∀ word ∈ (role source token).structural (headerTrail source kind front),
          word ∉ endingWords .opening kind := by
  have leaves : (∀ node ∈ front ++ [Node.leaf token], node.leaf?.isSome = true) ↔
      ∀ node ∈ front, node.leaf?.isSome = true := by
    simp [or_imp, forall_and, Node.leaf?]
  have tail (only : ∀ node ∈ front, node.leaf?.isSome = true) :
      ((front ++ [Node.leaf token]).filterMap Node.leaf?).tail =
        (front.filterMap Node.leaf?).tail ++ [token] := by
    obtain ⟨first, rest, rfl⟩ := List.exists_cons_of_ne_nil started
    obtain ⟨opener, found⟩ := Option.isSome_iff_exists.mp (only first List.mem_cons_self)
    rw [List.cons_append, List.filterMap_cons_some found, List.filterMap_cons_some found]
    simp [Node.leaf?]
  constructor
  · rintro ⟨only, unended⟩
    rw [tail (leaves.mp only), clear_append_singleton] at unended
    exact ⟨⟨leaves.mp only, unended.1⟩, unended.2⟩
  · rintro ⟨⟨only, unended⟩, goes_on⟩
    refine ⟨leaves.mpr only, ?_⟩
    rw [tail only]
    exact clear_append_singleton.mpr ⟨unended, goes_on⟩

end

/-! ## Behind an `else` -/

/-- Right in front of a place stands the `else` of another branch. -/
structure EndsInElse (source : Text) (place : Place) : Prop where
  conditional : place.kind? = some .conditional
  leads : ∃ word ∈ place.last?,
    (role source word).structural (trail source none place.back.before) = some "else"
  ended : ¬ HeaderUnended source .conditional place.back.front

instance (source : Text) (place : Place) : Decidable (EndsInElse source place) :=
  decidable_of_iff
    (place.kind? = some .conditional ∧
      (∃ word ∈ place.last?,
        (role source word).structural (trail source none place.back.before) = some "else") ∧
      ¬ HeaderUnended source .conditional place.back.front)
    ⟨fun all => ⟨all.1, all.2.1, all.2.2⟩, fun ends => ⟨ends.conditional, ends.leads, ends.ended⟩⟩

/-- Right in front of a place stands a gap, and in front of it the `else` of another branch. -/
def EndsInGap (source : Text) (place : Place) : Prop :=
  (∃ gap ∈ place.last?, role source gap = .gap) ∧ EndsInElse source place.back

instance (source : Text) (place : Place) : Decidable (EndsInGap source place) :=
  inferInstanceAs (Decidable (_ ∧ _))

/-- A branch starts in front of a place, so that an `if` there would belong to it. -/
def BehindElse (source : Text) (place : Place) : Prop :=
  EndsInElse source place ∨ EndsInGap source place

instance (source : Text) (place : Place) : Decidable (BehindElse source place) :=
  inferInstanceAs (Decidable (_ ∨ _))

section

variable {source : Text} {place : Place} {token : Token}

theorem endsInElse_past_leaf : EndsInElse source (place.past [.leaf token]) ↔
    place.kind? = some .conditional ∧
      (role source token).structural (trail source none place.before) = some "else" ∧
      ¬ HeaderUnended source .conditional place.front := by
  constructor
  · rintro ⟨conditional, leads, ended⟩
    rw [Place.back_past_leaf] at leads ended
    exact ⟨conditional, by simpa using leads, ended⟩
  · rintro ⟨conditional, leads, ended⟩
    exact ⟨conditional, by simpa using leads, by simpa using ended⟩

theorem endsInGap_past_leaf : EndsInGap source (place.past [.leaf token]) ↔
    role source token = .gap ∧ EndsInElse source place := by
  simp [EndsInGap]

/-- Where no leaf stands right in front, no branch starts. -/
theorem not_behindElse_of_no_leaf (no_leaf : place.last? = none) : ¬ BehindElse source place := by
  rintro (⟨-, ⟨word, found, -⟩, -⟩ | ⟨⟨gap, found, -⟩, -⟩)
  all_goals simp [no_leaf] at found

theorem not_behindElse_of_outside (outside : place.kind? = none) : ¬ BehindElse source place := by
  rintro (⟨conditional, -, -⟩ | ⟨-, conditional, -, -⟩)
  · simp [outside] at conditional
  · have same : place.back.kind? = place.kind? := rfl
    simp [same, outside] at conditional

end

/-! ## Leaves that are kept flat -/

/--
A token that is a leaf at a place is kept flat: it contributes an opener there, but neither has it
opened the block that starts with it, nor does it belong to an `else`.
-/
def KeptFlat (source : Text) (place : Place) (token : Token) : Prop :=
  ∃ kind ∈ Kind.all,
    (role source token).structural (trail source none place.before) = some kind.opener ∧
      ¬ (place.front = [] ∧ place.kind? = some kind) ∧
      ¬ (kind = .conditional ∧ BehindElse source place)

instance (source : Text) (place : Place) (token : Token) :
    Decidable (KeptFlat source place token) :=
  inferInstanceAs (Decidable (∃ kind ∈ Kind.all, _))

/-- A notice about an opener that the limit kept flat. -/
def Notice.isKeptFlat : Notice → Bool
  | .keptFlat .. => true
  | _ => false

/-- The notice that is due at a site: one with the word in small letters and where it starts, if
the leaf there is kept flat. -/
def flatNotice? (source : Text) (limit : Nat) (site : Site) : Option Notice :=
  match site.node with
  | .leaf token =>
    if KeptFlat source site.place token then
      some (.keptFlat limit (Token.smallWord (token.text source)) token.start)
    else none
  | .block .. => none

/-- Notices are due for leaves only. -/
theorem filterMap_flatNotice?_leafSites (source : Text) (limit : Nat) (place : Place)
    (forest : List Node) :
    (Forest.leafSites place forest).filterMap (flatNotice? source limit) =
      (Forest.sites place forest).filterMap (flatNotice? source limit) := by
  rw [Forest.leafSites, List.filterMap_filter]
  congr 1
  funext site
  obtain ⟨place, node⟩ := site
  cases node <;> rfl

/-- A token that contributes no opener is not kept flat. -/
theorem not_keptFlat_of_word {source : Text} {place : Place} {token : Token}
    (plain : ∀ word, (role source token).structural (trail source none place.before) = some word →
      word ∉ openers) : ¬ KeptFlat source place token := by
  rintro ⟨kind, listed, found, -⟩
  exact plain _ found (List.mem_map.mpr ⟨kind, listed, rfl⟩)

end Block

end BrightBlocks
