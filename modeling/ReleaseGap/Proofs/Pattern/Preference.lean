import Mathlib.Logic.Function.Iterate
import ReleaseGap.Proofs.Pattern.Follow

/-!
# What a pattern prefers

What a pattern finds is told by the pattern alone, one construct after the other: the left
alternative first, and more or fewer repetitions first.  The program that is made of the pattern
prefers the same, as long as no loop runs over a pattern that can match the empty text.
-/
namespace ReleaseGap.Pattern

/-- What is found behind a part of a pattern, from the ends of the group and the place behind it. -/
abbrev Rest := Ends → Place → Option Ends

/-- What is found when there are two ways on and the first one is preferred if `greedy`. -/
def choose (greedy : Bool) (more done : Option Ends) : Option Ends :=
  if greedy then more.or done else done.or more

namespace Regex

/-- A loop: the part once more, if that passes some character, or what is behind the loop. -/
def loop (greedy : Bool) (part : Rest → Rest) (rest : Rest) : Rest := fun ends place =>
  choose greedy
    (part (fun ends' place' =>
      if place'.after.length < place.after.length then loop greedy part rest ends' place'
      else none) ends place)
    (rest ends place)
termination_by _ place => place.after.length

/-- What is found by a pattern and the rest behind it. -/
def before : Regex → Rest → Rest
  | empty, rest => rest
  | chars set, rest => fun ends place =>
    match place.after with
    | [] => none
    | c :: more => if set.contains c then rest ends (place.past c more) else none
  | look l, rest => fun ends place => if l.holds place then rest ends place else none
  | marked r, rest => fun ends place =>
    r.before (fun ends' place' => rest { ends' with stop := some place'.offset } place')
      { ends with start := some place.offset } place
  | cat a b, rest => a.before (b.before rest)
  | alt a b, rest => fun ends place => (a.before rest ends place).or (b.before rest ends place)
  | repeated greedy least (some most) r, rest =>
    (fun rest => r.before rest)^[least]
      ((fun more ends place => choose greedy (r.before more ends place) (rest ends place))^[most -
        least] rest)
  | repeated greedy least none r, rest =>
    (fun rest => r.before rest)^[least] (loop greedy (fun rest => r.before rest) rest)

/-- Whether every loop passes a character each time. -/
def loopsAdvance : Regex → Bool
  | empty => true
  | chars _ => true
  | look _ => true
  | marked r => r.loopsAdvance
  | cat a b => a.loopsAdvance && b.loopsAdvance
  | alt a b => a.loopsAdvance && b.loopsAdvance
  | repeated _ _ most r => r.loopsAdvance && (most.isSome || !r.canBeEmpty)

end Regex

/-- What trying all ways on from a step answers. -/
def Answers (program : Program) (step : Nat) (ends : Ends) (place : Place) (res : Option Ends) :
    Prop := ∃ fuel, backtrack program fuel step ends place = some res

section Answers

variable {program : Program} {step next : Nat} {ends : Ends} {place : Place} {res : Option Ends}

theorem answers_accept (h : program.getD step .fail = .accept) :
    Answers program step ends place (some ends) :=
  ⟨1, by rw [backtrack, h]⟩

theorem answers_chars {set : CharSet} (h : program.getD step .fail = .chars set next) {rest : Rest}
    (hrest : ∀ c more, place.after = c :: more →
      Answers program next ends (place.past c more) (rest ends (place.past c more))) :
    Answers program step ends place ((Regex.chars set).before rest ends place) := by
  rw [Regex.before]
  cases hafter : place.after with
  | nil => exact ⟨1, by rw [backtrack, h]; simp [hafter]⟩
  | cons c more =>
    obtain ⟨fuel, hfuel⟩ := hrest c more hafter
    refine ⟨fuel + 1, ?_⟩
    rw [backtrack, h]
    simp only [hafter]
    split
    · exact hfuel
    · rfl

theorem answers_look {l : Look} (h : program.getD step .fail = .look l next)
    (hnext : Answers program next ends place res) :
    Answers program step ends place (if l.holds place then res else none) := by
  obtain ⟨fuel, hfuel⟩ := hnext
  refine ⟨fuel + 1, ?_⟩
  rw [backtrack, h]
  dsimp only
  split
  · exact hfuel
  · rfl

theorem answers_markStart (h : program.getD step .fail = .markStart next)
    (hnext : Answers program next { ends with start := some place.offset } place res) :
    Answers program step ends place res := by
  obtain ⟨fuel, hfuel⟩ := hnext
  exact ⟨fuel + 1, by rw [backtrack, h]; exact hfuel⟩

theorem answers_markEnd (h : program.getD step .fail = .markEnd next)
    (hnext : Answers program next { ends with stop := some place.offset } place res) :
    Answers program step ends place res := by
  obtain ⟨fuel, hfuel⟩ := hnext
  exact ⟨fuel + 1, by rw [backtrack, h]; exact hfuel⟩

theorem answers_split {first second : Nat} {res' : Option Ends}
    (h : program.getD step .fail = .split first second)
    (hfirst : Answers program first ends place res)
    (hsecond : Answers program second ends place res') :
    Answers program step ends place (res.or res') := by
  obtain ⟨fuel, hfuel⟩ := hfirst
  obtain ⟨fuel', hfuel'⟩ := hsecond
  refine ⟨max fuel fuel' + 1, ?_⟩
  rw [backtrack, h]
  dsimp only
  rw [backtrack_mono hfuel (Nat.le_max_left _ _)]
  cases res with
  | none => exact backtrack_mono hfuel' (Nat.le_max_right _ _)
  | some found => rfl

theorem answers_choice {greedy : Bool} {more done : Nat} {res' : Option Ends}
    (h : program.getD step .fail = Program.choice greedy more done)
    (hmore : Answers program more ends place res) (hdone : Answers program done ends place res') :
    Answers program step ends place (choose greedy res res') := by
  cases greedy with
  | true => exact answers_split h hmore hdone
  | false => exact answers_split h hdone hmore

end Answers

/-- A place at or behind another one, and not there itself unless the empty text can match. -/
def Place.IsBehind (canBeEmpty : Bool) (place place' : Place) : Prop :=
  place'.after.length ≤ place.after.length ∧
    (canBeEmpty = false → place'.after.length < place.after.length)

theorem Place.IsBehind.trans {a b : Bool} {place place' place'' : Place}
    (h : place.IsBehind a place') (h' : place'.IsBehind b place'') :
    place.IsBehind (a && b) place'' := by
  refine ⟨Nat.le_trans h'.1 h.1, fun hempty => ?_⟩
  rcases Bool.and_eq_false_iff.1 hempty with ha | hb
  · exact Nat.lt_of_le_of_lt h'.1 (h.2 ha)
  · exact Nat.lt_of_lt_of_le (h'.2 hb) h.1

namespace Program

/-- A program has the steps of another one, and perhaps more behind them. -/
def Continues (p' p : Program) : Prop :=
  p.size ≤ p'.size ∧ ∀ i < p.size, p'.getD i .fail = p.getD i .fail

/-- A program has the steps of a part from a step on. -/
def HasFrom (program : Program) (first : Nat) (part : Program) : Prop :=
  ∀ i, first ≤ i → i < part.size → program.getD i .fail = part.getD i .fail

theorem Continues.refl (p : Program) : p.Continues p := ⟨Nat.le_refl _, fun _ _ => rfl⟩

theorem Continues.trans {p p' p'' : Program} (h' : p''.Continues p') (h : p'.Continues p) :
    p''.Continues p :=
  ⟨Nat.le_trans h.1 h'.1, fun i hi => (h'.2 i (Nat.lt_of_lt_of_le hi h.1)).trans (h.2 i hi)⟩

theorem continues_add (s : Step) (p : Program) : (add s p).2.Continues p := by
  refine ⟨by simp [add], fun i hi => ?_⟩
  simp [add, Array.getD_eq_getD_getElem?, Array.getElem?_push, Nat.ne_of_lt hi]

theorem HasFrom.of_continues {program p p' : Program} {first : Nat}
    (h : program.HasFrom first p') (hp : p'.Continues p) : program.HasFrom first p :=
  fun i hi hlt => (h i hi (Nat.lt_of_lt_of_le hlt hp.1)).trans (hp.2 i hlt)

theorem HasFrom.mono {program part : Program} {first first' : Nat}
    (h : program.HasFrom first part) (hle : first ≤ first') : program.HasFrom first' part :=
  fun i hi => h i (Nat.le_trans hle hi)

theorem HasFrom.getD_add {program p : Program} {first : Nat} {s : Step}
    (h : program.HasFrom first (add s p).2) (hle : first ≤ p.size) :
    program.getD p.size .fail = s := by
  rw [h p.size hle (by simp [add])]
  simp [add, Array.getD_eq_getD_getElem?]

theorem getD_set_self {p : Program} {i : Nat} (h : i < p.size) (s : Step) :
    (p.set! i s).getD i .fail = s := by
  simp [Array.getD_eq_getD_getElem?, h]

theorem getD_set_of_ne {i j : Nat} (h : i ≠ j) (p : Program) (s : Step) :
    (p.set! i s).getD j .fail = p.getD j .fail := by
  simp [Array.getD_eq_getD_getElem?, Array.getElem?_setIfInBounds_ne h]

theorem addLoop_eq (greedy : Bool) (body : Nat → Program → Nat × Program) (next : Nat)
    (p : Program) :
    addLoop greedy body next p =
      ((body p.size (add .fail p).2).1, p.size, (body p.size (add .fail p).2).2.set! p.size
        (choice greedy (body p.size (add .fail p).2).1 next)) := rfl

end Program

open Program

/-- What adds steps in front of a step does so as a pattern says: in every program that has these
steps, the first of them answers what is found by the pattern and the rest behind it. -/
structure Compiles (canBeEmpty : Bool) (add : Nat → Program → Nat × Program)
    (meaning : Rest → Rest) : Prop where
  continues : ∀ next p, (add next p).2.Continues p
  answers : ∀ next p program, program.HasFrom p.size (add next p).2 → ∀ rest ends place,
    (∀ ends' place', place.IsBehind canBeEmpty place' →
      Answers program next ends' place' (rest ends' place')) →
    Answers program (add next p).1 ends place (meaning rest ends place)

namespace Compiles

variable {a b : Bool} {f g : Nat → Program → Nat × Program} {m n : Rest → Rest}

theorem weaken (h : Compiles a f m) (hab : a = true → b = true) : Compiles b f m where
  continues := h.continues
  answers next p program hhas rest ends place hrest :=
    h.answers next p program hhas rest ends place fun ends' place' hplace =>
      hrest ends' place' ⟨hplace.1, fun hb => hplace.2 (Bool.eq_false_iff.2 fun ha => by simp_all)⟩

/-- No step at all. -/
theorem nothing : Compiles true (fun next p => (next, p)) id where
  continues _ p := .refl p
  answers _ _ _ _ _ ends place hrest := hrest ends place ⟨Nat.le_refl _, fun h => by cases h⟩

/-- One step. -/
theorem single (s : Nat → Step) (h : ∀ program here next,
    program.getD here .fail = s next → ∀ rest ends place,
      (∀ ends' place', place.IsBehind a place' →
        Answers program next ends' place' (rest ends' place')) →
      Answers program here ends place (m rest ends place)) :
    Compiles a (fun next p => Program.add (s next) p) m where
  continues next p := continues_add (s next) p
  answers next p program hhas rest ends place hrest :=
    h program p.size next (hhas.getD_add (Nat.le_refl _)) rest ends place hrest

/-- One pattern behind another. -/
theorem comp (hf : Compiles a f m) (hg : Compiles b g n) :
    Compiles (a && b) (fun next p => f (g next p).1 (g next p).2) (m ∘ n) where
  continues next p := (hf.continues _ _).trans (hg.continues next p)
  answers next p program hhas rest ends place hrest := by
    have hsize := (hg.continues next p).1
    refine hf.answers _ _ program (hhas.mono hsize) (n rest) ends place
      fun ends' place' hplace => ?_
    exact hg.answers next p program (hhas.of_continues (hf.continues _ _)) rest ends' place'
      fun ends'' place'' hplace' => hrest ends'' place'' (hplace.trans hplace')

theorem copies (h : Compiles a f m) (n : Nat) :
    Compiles (n == 0 || a) (Program.addCopies f n) m^[n] := by
  induction n with
  | zero => exact nothing
  | succ n ih => exact (ih.comp h).weaken (b := n + 1 == 0 || a) (by simp)

theorem continues_addOptional (h : Compiles a f m) (greedy : Bool) (done n next : Nat)
    (p : Program) : (addOptional greedy f done n next p).2.Continues p := by
  induction n generalizing next p with
  | zero => exact .refl p
  | succ n ih => exact ((ih _ _).trans (continues_add _ _)).trans (h.continues next p)

/-- Copies each of which may be the last. -/
theorem answers_addOptional (h : Compiles a f m) {program : Program} {greedy : Bool} {done : Nat}
    {rest : Rest} {place : Place}
    (hdone : ∀ ends place', place.IsBehind true place' →
      Answers program done ends place' (rest ends place'))
    (n next : Nat) (p : Program)
    (hhas : program.HasFrom p.size (addOptional greedy f done n next p).2) {more : Rest}
    (hmore : ∀ ends place', place.IsBehind true place' →
      Answers program next ends place' (more ends place'))
    (ends : Ends) {place' : Place} (hplace : place.IsBehind true place') :
    Answers program (addOptional greedy f done n next p).1 ends place'
      ((fun more ends place => choose greedy (m more ends place) (rest ends place))^[n] more ends
        place') := by
  induction n generalizing next p more with
  | zero => exact hmore ends place' hplace
  | succ n ih =>
    have hsize := (h.continues next p).1
    have hadd := continues_add (choice greedy (f next p).1 done) (f next p).2
    have hlater := h.continues_addOptional greedy done n (f next p).2.size
      (add (choice greedy (f next p).1 done) (f next p).2).2
    refine ih (f next p).2.size _ (hhas.mono (Nat.le_trans hsize hadd.1)) fun ends' place'' hp => ?_
    refine answers_choice ((hhas.of_continues hlater).getD_add hsize) ?_ (hdone ends' place'' hp)
    refine h.answers next p program ((hhas.of_continues hlater).of_continues hadd) more ends'
      place'' fun ends'' q hq => hmore ends'' q ?_
    exact ⟨Nat.le_trans hq.1 hp.1, fun h => by cases h⟩

theorem continues_addLoop (h : Compiles a f m) (greedy : Bool) (next : Nat) (p : Program) :
    (addLoop greedy f next p).2.2.Continues p := by
  have hpart := (h.continues p.size (add .fail p).2).trans (continues_add .fail p)
  rw [addLoop_eq]
  refine ⟨by simpa using hpart.1, fun i hi => ?_⟩
  rw [getD_set_of_ne (Nat.ne_of_gt hi), hpart.2 i hi]

theorem hasFrom_addLoop (h : Compiles a f m) {program : Program} {greedy : Bool} {next : Nat}
    {p : Program} (hhas : program.HasFrom p.size (addLoop greedy f next p).2.2) :
    program.getD p.size .fail = choice greedy (addLoop greedy f next p).1 next ∧
    program.HasFrom (add .fail p).2.size (f p.size (add .fail p).2).2 := by
  rw [addLoop_eq] at hhas ⊢
  have hsize : (add .fail p).2.size = p.size + 1 := by simp [add]
  have hlt : p.size < (f p.size (add .fail p).2).2.size := by
    have := (h.continues p.size (add .fail p).2).1
    omega
  constructor
  · rw [hhas p.size (Nat.le_refl _) (by simpa using hlt), getD_set_self hlt]
  · intro i hi hilt
    rw [hhas i (by omega) (by simpa using hilt), getD_set_of_ne (by omega)]

/-- The step behind the part of a loop goes round once more or leaves the loop. -/
theorem answers_addLoop (h : Compiles false f m) {program : Program} {greedy : Bool} {next : Nat}
    {p : Program} (hhas : program.HasFrom p.size (addLoop greedy f next p).2.2) {rest : Rest}
    {place : Place}
    (hrest : ∀ ends place', place.IsBehind true place' →
      Answers program next ends place' (rest ends place')) (ends : Ends) :
    Answers program p.size ends place (Regex.loop greedy m rest ends place) := by
  obtain ⟨hbehind, hpart⟩ := h.hasFrom_addLoop hhas
  -- The part passes a character, so that fewer are left when the loop comes back to its step.
  generalize hleft : place.after.length = left
  induction left using Nat.strongRecOn generalizing place ends with
  | _ left ih =>
  subst hleft
  rw [Regex.loop]
  refine answers_choice hbehind ?_ (hrest ends place ⟨Nat.le_refl _, fun h => by cases h⟩)
  refine h.answers p.size _ program hpart _ ends place fun ends' place' hlater => ?_
  rw [if_pos (hlater.2 rfl)]
  exact ih _ (hlater.2 rfl) (fun ends'' place'' hp =>
    hrest ends'' place'' ⟨Nat.le_trans hp.1 hlater.1, fun h => by cases h⟩) ends' rfl

theorem loop (h : Compiles false f m) (greedy : Bool) :
    Compiles true (fun next p => (addLoop greedy f next p).2) (Regex.loop greedy m) where
  continues := h.continues_addLoop greedy
  answers _ _ _ hhas _ ends _ hrest := h.answers_addLoop hhas hrest ends

/-- A loop that is run at least once. -/
theorem loopOnce (h : Compiles false f m) (greedy : Bool) :
    Compiles false
      (fun next p => ((addLoop greedy f next p).1, (addLoop greedy f next p).2.2))
      (m ∘ Regex.loop greedy m) where
  continues := h.continues_addLoop greedy
  answers _ p program hhas rest ends place hrest := by
    refine h.answers p.size _ program (h.hasFrom_addLoop hhas).2 _ ends place
      fun ends' place' hlater => ?_
    exact h.answers_addLoop hhas (fun ends'' place'' hp => hrest ends'' place'' (hlater.trans hp))
      ends'

/-- One pattern or another. -/
theorem alt (hf : Compiles a f m) (hg : Compiles b g n) :
    Compiles (a || b)
      (fun next p =>
        let (first, p) := f next p
        let (second, p) := g next p
        Program.add (.split first second) p)
      (fun rest ends place => (m rest ends place).or (n rest ends place)) where
  continues next p :=
    ((continues_add _ _).trans (hg.continues next _)).trans (hf.continues next p)
  answers next p program hhas rest ends place hrest := by
    have hsize := (hf.continues next p).1
    have hleft := hhas.of_continues (continues_add _ _)
    refine answers_split (hhas.getD_add (Nat.le_trans hsize (hg.continues next _).1)) ?_ ?_
    · exact (hf.weaken (b := a || b) (by simp_all)).answers next p program
        (hleft.of_continues (hg.continues next _)) rest ends place hrest
    · exact (hg.weaken (b := a || b) (by simp_all)).answers next _ program
        (hleft.mono hsize) rest ends place hrest

theorem marked (h : Compiles a f m) :
    Compiles a
      (fun next p =>
        let (stop, p) := Program.add (.markEnd next) p
        let (start, p) := f stop p
        Program.add (.markStart start) p)
      (fun rest ends place =>
        m (fun ends' place' => rest { ends' with stop := some place'.offset } place')
          { ends with start := some place.offset } place) := by
  have hstart : Compiles true (fun next p => Program.add (.markStart next) p)
      fun rest ends place => rest { ends with start := some place.offset } place :=
    single Step.markStart fun program here next hstep rest ends place hrest =>
      answers_markStart hstep (hrest _ place ⟨Nat.le_refl _, fun h => by cases h⟩)
  have hstop : Compiles true (fun next p => Program.add (.markEnd next) p)
      fun rest ends place => rest { ends with stop := some place.offset } place :=
    single Step.markEnd fun program here next hstep rest ends place hrest =>
      answers_markEnd hstep (hrest _ place ⟨Nat.le_refl _, fun h => by cases h⟩)
  exact (hstart.comp (h.comp hstop)).weaken (by simp)

/-- Some copies, and more of them up to a number. -/
theorem upTo (h : Compiles a f m) (greedy : Bool) (least more : Nat) :
    Compiles (least == 0 || a)
      (fun next p =>
        let (start, p) := addOptional greedy f next more next p
        addCopies f least start p)
      (fun rest => m^[least]
        ((fun further ends place => choose greedy (m further ends place) (rest ends place))^[more]
          rest)) := by
  have hmore : Compiles true (fun next p => addOptional greedy f next more next p)
      (fun rest => (fun further ends place =>
        choose greedy (m further ends place) (rest ends place))^[more] rest) :=
    { continues := fun next p => h.continues_addOptional greedy next more next p
      answers := fun next p program hhas rest ends place hrest =>
        h.answers_addOptional hrest more next p hhas hrest ends
          ⟨Nat.le_refl _, fun h => by cases h⟩ }
  exact ((h.copies least).comp hmore).weaken (by simp)

end Compiles

/-- The program of a pattern finds what the pattern prefers. -/
theorem compiles_addRegex (r : Regex) (h : r.loopsAdvance = true) :
    Compiles r.canBeEmpty (addRegex r) r.before := by
  induction r with
  | empty => exact Compiles.nothing
  | chars set =>
    refine Compiles.single (Step.chars set) fun program here next hstep rest ends place hrest => ?_
    refine answers_chars hstep fun c more hafter => hrest ends _ ?_
    simp [Place.IsBehind, Place.past, hafter]
  | look l =>
    refine Compiles.single (Step.look l) fun program here next hstep rest ends place hrest => ?_
    exact answers_look hstep (hrest ends place ⟨Nat.le_refl _, fun h => by cases h⟩)
  | marked r ih => exact (ih h).marked
  | cat a b iha ihb =>
    obtain ⟨ha, hb⟩ := Bool.and_eq_true_iff.1 h
    exact (iha ha).comp (ihb hb)
  | alt a b iha ihb =>
    obtain ⟨ha, hb⟩ := Bool.and_eq_true_iff.1 h
    exact (iha ha).alt (ihb hb)
  | repeated greedy least most r ih =>
    obtain ⟨hr, hmost⟩ := Bool.and_eq_true_iff.1 h
    cases most with
    | some most => exact (ih hr).upTo greedy least (most - least)
    | none =>
      have hempty : r.canBeEmpty = false := by simpa using hmost
      have hbody := ih hr
      rw [hempty] at hbody
      cases least with
      | zero =>
        have hadd : addRegex (.repeated greedy 0 none r) =
            fun next p => (addLoop greedy (addRegex r) next p).2 := by
          funext next p
          simp [addRegex, hempty]
        rw [hadd]
        exact hbody.loop greedy
      | succ least =>
        have hcopies := (hbody.copies least).comp (hbody.loopOnce greedy)
        have hmeaning : Regex.before (.repeated greedy (least + 1) none r) =
            r.before^[least] ∘ r.before ∘ Regex.loop greedy r.before := by
          funext rest
          rw [Regex.before, Function.iterate_succ]
          rfl
        rw [hmeaning]
        exact hcopies.weaken (by simp)

namespace Regex

/-- What a pattern finds at a place. -/
def found? (r : Regex) (place : Place) : Option Ends :=
  r.before (fun ends _ => some ends) ⟨none, none⟩ place

/-- The match that starts at a place has the ends that the pattern finds there. -/
theorem matchAt?_ofRegex {r : Regex} (h : r.loopsAdvance = true) (place : Place) :
    (matchAt? (Program.ofRegex r).1 (Program.ofRegex r).2 place).map Thread.ends
      = r.found? place := by
  have hcompiles := compiles_addRegex r h
  have haccept : (Program.ofRegex r).2.getD 0 .fail = .accept :=
    (hcompiles.continues 0 #[.accept]).2 0 (by decide)
  obtain ⟨fuel, hfuel⟩ := hcompiles.answers 0 #[.accept] (Program.ofRegex r).2
    (fun _ _ _ => rfl) (fun ends _ => some ends) ⟨none, none⟩ place
    fun ends' place' _ => answers_accept haccept
  exact matchAt?_of_backtrack hfuel

/-- A pattern that finds something at the beginning of a text only. -/
def IsAnchored (r : Regex) : Prop := ∀ place, place.before ≠ none → r.found? place = none

theorem isAnchored_cat_textStart (r : Regex) : (cat (look .textStart) r).IsAnchored := by
  intro place hbefore
  simp [found?, before, Look.holds, hbefore]

theorem searchFrom?_eq_none {r : Regex} (h : r.loopsAdvance = true) (hanchored : r.IsAnchored)
    (c : Char) (offset : Nat) (text : List Char) :
    searchFrom? (Program.ofRegex r).1 (Program.ofRegex r).2 (some c) offset text = none := by
  have hmatch : ∀ c offset text,
      matchAt? (Program.ofRegex r).1 (Program.ofRegex r).2 ⟨some c, text, offset⟩ = none := by
    intro c offset text
    have hfound := matchAt?_ofRegex h ⟨some c, text, offset⟩
    rw [hanchored _ (by simp)] at hfound
    simpa using hfound
  induction text generalizing c offset with
  | nil => exact hmatch c offset []
  | cons d rest ih => rw [searchFrom?, hmatch, ih, Option.none_or]

/-- The marked text of an anchored pattern lies between the ends that it finds at the beginning. -/
theorem markedText?_of_isAnchored {r : Regex} (h : r.loopsAdvance = true)
    (hanchored : r.IsAnchored) (text : List Char) :
    r.markedText? text = (r.found? ⟨none, text, 0⟩).bind fun ends =>
      ends.start.bind fun first => ends.stop.map fun last => (text.take last).drop first := by
  have hsearch : searchFrom? (Program.ofRegex r).1 (Program.ofRegex r).2 none 0 text
      = matchAt? (Program.ofRegex r).1 (Program.ofRegex r).2 ⟨none, text, 0⟩ := by
    cases text with
    | nil => rfl
    | cons c rest => rw [searchFrom?, searchFrom?_eq_none h hanchored, Option.or_none]
  have hmarked : r.markedText? text
      = (searchFrom? (Program.ofRegex r).1 (Program.ofRegex r).2 none 0 text).bind fun found =>
        found.markStart.bind fun first => found.markEnd.bind fun last =>
          some ((text.take last).drop first) := rfl
  rw [hmarked, ← matchAt?_ofRegex h, ← hsearch, Option.bind_map]
  congr 1
  funext ⟨step, start, stop⟩
  cases start <;> cases stop <;> rfl

end Regex

end ReleaseGap.Pattern
