import LexicalAutomata.Proofs.Automaton.FixedLength
import LexicalAutomata.Proofs.Expression.Words
import LexicalAutomata.Proofs.Regex.Compile
import LexicalAutomata.Proofs.Regex.Search

namespace LexicalAutomata

/-!
# Branches of labels

An expression whose only branch is a sequence of labels matches one character for each of
them.  What is found has that length, which is why it is found wherever the labels contain the
next characters, and the first such place is what a search finds.
-/

/-- The characters that some labels contain, one character for each label. -/
def LabelsContain
    (labels : List Label)
    (chars : List Char) :
    Prop :=
  List.Forall₂ (fun label char => char.toNat ∈ label.points) labels chars

/-- Labels in sequence, each of which stands once. -/
def labelBranch
    (labels : List Label) :
    Branch :=
  labels.map fun label => ⟨.label label, .once⟩

/-- No label waits for a boundary. -/
def LabelsFree
    (labels : List Label) :
    Prop :=
  ∀ label ∈ labels, label.boundaries = .empty

section Matching

variable {labels : List Label}

/-- A sequence of labels is an expression that stands for itself. -/
theorem isLiteral_labelBranch
    (labels : List Label) :
    Expression.isLiteral [labelBranch labels] = true := by
  simp [Expression.isLiteral, labelBranch, Piece.isPlain]

theorem bears_labelBranch
    (free : LabelsFree labels) :
    Expression.Bears [labelBranch labels] fun label => label.boundaries = .empty := by
  refine ⟨?_, trivial⟩
  induction labels with
  | nil =>
      trivial
  | cons label rest inductionHypothesis =>
      obtain ⟨headFree, restFree⟩ := List.forall_mem_cons.mp free
      exact ⟨headFree, inductionHypothesis restFree⟩

/-- A word that the labels read has a code point for each of them. -/
theorem length_of_leads_labelBranch
    {word : List Nat}
    (leads : Expression.Leads [labelBranch labels] Label.Reads word []) :
    word.length = labels.length := by
  rw [Expression.leads_singleton_iff] at leads
  induction labels generalizing word with
  | nil =>
      rw [show word = [] from leads]
      rfl
  | cons label rest inductionHypothesis =>
      obtain ⟨middle, first, others⟩ := leads
      obtain ⟨codePoint, _, rfl⟩ := Piece.matches_once_iff.mp first
      rw [List.length_cons, List.length_cons, inductionHypothesis others]

/-- Without boundaries, a label is crossed by reading a character that it contains. -/
theorem Label.crosses_iff_of_free
    {label : Label}
    (free : label.boundaries = .empty)
    {searchStart : Nat}
    {place stop : Place} :
    label.Crosses searchStart place stop ↔
      ∃ char, place.rest.head? = some char ∧ char.toNat ∈ label.points ∧
        stop = place.advance 1 := by
  constructor
  · intro crosses
    cases crosses with
    | reading contained =>
        exact ⟨_, rfl, contained, rfl⟩
    | holding waits _ =>
        rw [free] at waits
        exact (BoundarySet.not_mem_empty _ waits).elim
  · rintro ⟨char, first, contained, rfl⟩
    obtain ⟨before, offset, rest⟩ := place
    obtain ⟨behind, rfl⟩ := List.head?_eq_some_iff.mp first
    exact .reading contained

/-- A sequence of labels matches as many characters, which the labels contain. -/
theorem matches_labelBranch_iff
    (free : LabelsFree labels)
    {searchStart : Nat}
    {place stop : Place} :
    Expression.Matches [labelBranch labels] searchStart place stop ↔
      LabelsContain labels (place.rest.take labels.length) ∧ stop = place.advance labels.length := by
  rw [Expression.Matches, Expression.leads_singleton_iff]
  induction labels generalizing place with
  | nil =>
      simp [labelBranch, PiecesMatch, LabelsContain, eq_comm]
  | cons label rest inductionHypothesis =>
      obtain ⟨headFree, restFree⟩ := List.forall_mem_cons.mp free
      have first :
          ∀ middle,
            Piece.Matches (Label.Crosses searchStart) ⟨.label label, .once⟩ place middle ↔
              ∃ char, place.rest.head? = some char ∧ char.toNat ∈ label.points ∧
                middle = place.advance 1 := by
        intro middle
        rw [Piece.Matches, Quantifier.repeats_once_iff, Label.crosses_iff_of_free headFree]
      have parts :
          PiecesMatch (Label.Crosses searchStart) (labelBranch (label :: rest)) place stop ↔
            ∃ char, place.rest.head? = some char ∧ char.toNat ∈ label.points ∧
              LabelsContain rest ((place.advance 1).rest.take rest.length) ∧
                stop = (place.advance 1).advance rest.length := by
        rw [labelBranch, List.map_cons, PiecesMatch]
        constructor
        · rintro ⟨middle, crossed, others⟩
          obtain ⟨char, isFirst, contained, rfl⟩ := (first middle).mp crossed
          exact ⟨char, isFirst, contained, (inductionHypothesis restFree).mp others⟩
        · rintro ⟨char, isFirst, contained, others⟩
          exact ⟨_, (first _).mpr ⟨char, isFirst, contained, rfl⟩,
            (inductionHypothesis restFree).mpr others⟩
      rw [parts]
      obtain ⟨before, offset, chars⟩ := place
      cases chars with
      | nil =>
          simp [LabelsContain]
      | cons char behind =>
          simp [LabelsContain, and_assoc]

end Matching

namespace Regex

variable {labels : List Label}

/--
What an expression finds that is a sequence of labels has one character for each of them, and
it is found wherever the labels contain the next characters.
-/
structure ReadsLabels
    (regex : Regex)
    (labels : List Label) : Prop where
  found (place : Place) (searchStart : Nat) (found : Found) :
    regex.automaton.longestAt place searchStart = some found →
      found.length = labels.length ∧ LabelsContain labels (place.rest.take labels.length)
  unfound (place : Place) (searchStart : Nat) :
    regex.automaton.longestAt place searchStart = none ↔
      ¬LabelsContain labels (place.rest.take labels.length)
  minLength : regex.automaton.minLength = labels.length
  maxLength : regex.automaton.maxLength = some labels.length

/-- Labels contain a text only if there is a label for each character. -/
theorem length_le_of_labelsContain_take
    {chars : List Char}
    (contain : LabelsContain labels (chars.take labels.length)) :
    labels.length ≤ chars.length := by
  have same := contain.length_eq
  rw [List.length_take] at same
  omega

/-- Nothing waits for a boundary in the graph of an expression whose labels do not. -/
theorem boundaryFree_of_expression
    [PropertyParser]
    {text : String}
    {options : Options}
    {expression : Expression}
    (parsed : Expression.parse text options = .ok expression)
    (free : expression.Bears fun label => label.boundaries = .empty)
    {graph : Graph Unit}
    {fragment : Fragment}
    (built : Build.expression text () options Graph.empty = (.ok fragment, graph)) :
    graph.BoundaryFree := by
  have relocates :
      Build.Relocates (Graph.empty : Graph Unit) (fun label => label.boundaries = .empty) 0
        (Build.expression text () options) (Build.expression text () options) := by
    refine Build.relocates_expression ?_ () 0
    intro other isOther
    cases parsed.symm.trans isOther
    exact free
  have bears := (relocates .empty (Nat.zero_le _) Graph.bears_empty).bears
  rw [built] at bears
  intro id edge member
  have fits := bears id edge member
  cases edge with
  | silent _ =>
      rfl
  | labelled _ _ =>
      exact fits.1

/-- The words of a sequence of labels have a code point for each label. -/
theorem length_eq_of_hasTerminal
    [PropertyParser]
    {text : String}
    {options : Options}
    (parsed : Expression.parse text options = .ok [labelBranch labels])
    (hasEnder :
      options.fixedEnder = true → Expression.enderLength [labelBranch labels] ≠ 0)
    {graph : Graph Unit}
    {fragment : Fragment}
    (built : Build.expression text () options Graph.empty = (.ok fragment, graph))
    {word : List Nat}
    (hasTerminal : graph.HasTerminal (graph.behind {fragment.first} word)) :
    word.length = labels.length := by
  obtain ⟨_, _, again, gains⟩ := Build.gains_expression parsed hasEnder () Graph.empty
  cases built.symm.trans again
  obtain ⟨terminal, member, isTerminal⟩ := hasTerminal
  cases ((gains (Label.Crosses 0)).isSome_token_iff rfl terminal).mp isTerminal
  obtain ⟨_, rfl, route⟩ := Graph.mem_behind_iff.mp member
  obtain ⟨_, _, offers⟩ := (gains Label.Reads).offers
  exact length_of_leads_labelBranch ((offers.route_iff _ _).mp route)

/-- A sequence of labels is compiled if it can be read. -/
theorem exists_readsLabels
    [PropertyParser]
    {text : String}
    {options : Options}
    (parsed : Expression.parse text options = .ok [labelBranch labels])
    (plain : options.fixedEnder = false)
    (patient : options.acceptImmediately = false)
    (free : LabelsFree labels)
    {chars : List Char}
    (contain : LabelsContain labels chars) :
    ∃ automaton,
      Regex.compile text options = .ok ⟨text, options, automaton⟩ ∧
        ReadsLabels ⟨text, options, automaton⟩ labels := by
  obtain ⟨graph, fragment, automaton, built, compiled, constructed, gains⟩ :=
    exists_compile_mark parsed (by simp [plain])
  rw [Expression.mark_of_plain _ plain patient] at gains
  have finds := fun searchStart => findsLongest_of_gains constructed (gains searchStart)
  have unfound :
      ∀ place searchStart,
        automaton.longestAt place searchStart = none ↔
          ¬LabelsContain labels (place.rest.take labels.length) := by
    intro place searchStart
    rw [(finds searchStart place).none]
    simp [matches_labelBranch_iff free]
  have boundaryFree := boundaryFree_of_expression parsed (bears_labelBranch free) built
  have matched :
      automaton.longestAt (.start chars) 0 ≠ none := by
    have whole : chars.take labels.length = chars :=
      List.take_of_length_le contain.length_eq.ge
    rw [ne_eq, unfound, not_not, Place.start, whole]
    exact contain
  obtain ⟨found, isFound⟩ := Option.ne_none_iff_exists'.mp matched
  obtain ⟨minLength, maxLength⟩ :=
    Automaton.lengths_eq_of_words constructed boundaryFree (gains 0).plain
      (fun _ => length_eq_of_hasTerminal parsed (by simp [plain]) built) isFound
  refine ⟨automaton, compiled, ?_, unfound, minLength, maxLength⟩
  intro place searchStart found isFound
  obtain ⟨le, reaches, _⟩ := (finds searchStart place).some found isFound
  obtain ⟨contained, same⟩ := (matches_labelBranch_iff free).mp reaches
  have bound := length_le_of_labelsContain_take contained
  have sameRest := congrArg (fun stop => stop.rest.length) same
  simp only [Place.rest_advance, List.length_drop] at sameRest
  exact ⟨by omega, contained⟩

namespace ReadsLabels

variable {regex : Regex}

/-- Whole texts are accepted that the labels contain. -/
theorem isMatch_iff
    (reads : regex.ReadsLabels labels)
    (subject : String) :
    regex.isMatch subject = true ↔ LabelsContain labels subject.toList := by
  unfold isMatch
  cases isFound : regex.automaton.longestAt (.start subject.toList) 0 with
  | none =>
      refine iff_of_false (by simp) fun contain => ?_
      have whole : subject.toList.take labels.length = subject.toList :=
        List.take_of_length_le contain.length_eq.ge
      refine (reads.unfound _ _).mp isFound ?_
      rw [Place.start, whole]
      exact contain
  | some found =>
      obtain ⟨length, contain⟩ := reads.found _ _ found isFound
      simp only [Option.any_some, beq_iff_eq, length]
      constructor
      · intro whole
        rwa [Place.start, whole, List.take_length] at contain
      · exact List.Forall₂.length_eq

/-- A match with characters is found where the labels contain the next characters. -/
theorem nonemptyLengthAt?_eq_some_iff
    (reads : regex.ReadsLabels labels)
    (present : labels ≠ [])
    {place : Place}
    {searchStart length : Nat} :
    regex.automaton.nonemptyLengthAt? place searchStart = some length ↔
      LabelsContain labels (place.rest.take labels.length) ∧ length = labels.length := by
  have positive := List.length_pos_iff.mpr present
  rw [Automaton.nonemptyLengthAt?]
  cases isFound : regex.automaton.longestAt place searchStart with
  | none =>
      simp [(reads.unfound _ _).mp isFound]
  | some found =>
      obtain ⟨same, contain⟩ := reads.found _ _ found isFound
      simp [contain, Option.filter, same, positive, eq_comm]

end ReadsLabels

end Regex

end LexicalAutomata
