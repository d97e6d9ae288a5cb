import FirstMatch.Error
import FirstMatch.Proofs.Pattern.Counted
import FirstMatch.Proofs.Pattern.Parts
import FirstMatch.Proofs.Pattern.Recompiling

/-!
# Constructions that fail in another way

An ill-formed pattern is an invalid argument.  There are faults of another class, and each
of them is there to be seen: a number in the pattern does not fit, or the flags do not.  A
pattern that compiles with some flags is read in the same way with others that give it the
same style, so nothing but a misfit of these flags can be wrong.
-/

namespace FirstMatch

namespace Pattern

/-! ## Flags -/

def Flags.Fits (f : Flags) : Prop :=
  minFlags ≤ f.value ∧ f.value ≤ maxFlags

instance (f : Flags) : Decidable f.Fits :=
  inferInstanceAs (Decidable (_ ∧ _))

/-- What is wrong with flags for a pattern that reads well with them, where `ascii` says
whether the pattern ends up with that alphabet. -/
def Flags.misfit? (f : Flags) (ascii : Bool) : Option Fault :=
  if f.has .locale then some .localeNeedsBytes
  else if ascii && f.has .unicode then some .asciiAndUnicode
  else if f.Fits then Option.none
  else some .numberTooLarge

def Demanded (source : Text) (flags : Flags) (u : Switch) : Prop :=
  flags.has u = true ∨ ∃ on, GlobalFlags (Symbol.split source.toList) on ∧ u ∈ on

inductive Misfit (source : Text) (flags : Flags) : Fault → Prop
  | number {fault : Fault} (h : TooLarge (Symbol.split source.toList) fault) :
      Misfit source flags fault
  | locale (h : flags.has .locale = true) : Misfit source flags .localeNeedsBytes
  | alphabets (hascii : Demanded source flags .ascii)
      (hunicode : Demanded source flags .unicode) : Misfit source flags .asciiAndUnicode
  | range (h : ¬ flags.Fits) : Misfit source flags .numberTooLarge

variable {source : Text} {f g : Flags} {characters : CharacterNames}

theorem Flags.fits_turnOn_iff (f : Flags) (u : Switch) : (f.turnOn u).Fits ↔ f.Fits := by
  by_cases h : f.has u = true
  · rw [turnOn, if_pos h]
  · rw [turnOn, if_neg h]
    rw [has_iff] at h
    simp only [Fits, minFlags, maxFlags]
    cases u <;> simp only [Switch.weight] at h ⊢ <;> omega

theorem Flags.fits_turnOnAll_iff (f : Flags) (on : List Switch) :
    (f.turnOnAll on).Fits ↔ f.Fits := by
  induction on generalizing f with
  | nil => rfl
  | cons u on ih => exact (ih _).trans (f.fits_turnOn_iff u)

theorem fits_iff_of_settleFlags (h : settleFlags f = .ok g) : g.Fits ↔ f.Fits := by
  rcases settleFlags_eq_ok_iff.mp h with ⟨_, ⟨_, _, rfl⟩ | ⟨_, rfl⟩⟩
  · rfl
  · exact f.fits_turnOn_iff _

theorem settleFlags_eq_error_iff {fault : Fault} :
    settleFlags f = .error fault ↔
      f.has .locale = true ∧ fault = .localeNeedsBytes ∨
        f.has .locale = false ∧ f.has .ascii = true ∧ f.has .unicode = true ∧
          fault = .asciiAndUnicode := by
  unfold settleFlags
  by_cases hlocale : f.has .locale = true
  · simpa [hlocale] using eq_comm
  · by_cases hascii : f.has .ascii = true
    · by_cases hunicode : f.has .unicode = true
      · simpa [hlocale, hascii, hunicode] using eq_comm
      · simp [hlocale, hascii, hunicode]
    · simp [hlocale, hascii]

theorem demanded_of_grown (h : g.GrownFrom f (Symbol.split source.toList)) {u : Switch}
    (hu : g.has u = true) : Demanded source f u := by
  obtain ⟨on, rfl, hon⟩ := h
  exact ((f.has_turnOnAll_iff on u).mp hu).imp id (hon u)

theorem has_locale_of_demanded (h : Demanded source f .locale) : f.has .locale = true := by
  rcases h with h | ⟨on, ⟨letters, hletters, _⟩, hmem⟩
  · exact h
  · exact absurd hmem hletters.2

/-! ## What is wrong in the end -/

/-- What turns out to be ill-formed once the whole pattern is read. -/
def lateFault? (style : Style) (tree : Tree) (r : Reader) : Option Fault :=
  match tree.unbalanced, badCondition? r with
  | some position, _ => some (.illFormed .unbalancedParenthesis (some position))
  | none, some (group, position) => some (.illFormed (.invalidReference group) (some position))
  | none, none => (tree.root.lateProblem? style).map (.illFormed · none)

theorem finish_of_settleFlags (h : settleFlags f = .ok g) (tree : Tree) (r : Reader) :
    finish source f tree r =
      match lateFault? (.ofFlags f) tree r with
      | some fault => .error fault
      | none => if f.Fits then .ok ⟨source, g, tree.root⟩ else .error .numberTooLarge := by
  have hrange : (g.value < minFlags ∨ maxFlags < g.value) ↔ ¬ f.Fits := by
    rw [← fits_iff_of_settleFlags h, Flags.Fits]
    omega
  unfold finish lateFault?
  rw [h, ← ofFlags_of_settleFlags h]
  cases tree.unbalanced with
  | some position => rfl
  | none =>
      cases badCondition? r with
      | some bad => rfl
      | none =>
          cases hlate : tree.root.lateProblem? (.ofFlags g) with
          | some problem =>
              simp only [hlate, bind, Except.bind]
              rfl
          | none =>
              by_cases hfits : f.Fits
              · simp [hlate, hrange, hfits, bind, Except.bind, pure, Except.pure]
              · simp [hlate, hrange, hfits, bind, Except.bind, throw, throwThe, MonadExceptOf.throw]

theorem finish_of_settleFlags_error {fault : Fault} (h : settleFlags f = .error fault)
    (tree : Tree) (r : Reader) : finish source f tree r = .error fault := by
  unfold finish
  rw [h]
  rfl

theorem illFormed_of_lateFault? {style : Style} {tree : Tree} {r : Reader} {fault : Fault}
    (h : lateFault? style tree r = some fault) : fault.IsIllFormed := by
  unfold lateFault? at h
  split at h
  · exact ⟨_, _, (Option.some.inj h).symm⟩
  · exact ⟨_, _, (Option.some.inj h).symm⟩
  · obtain ⟨problem, _, hfault⟩ := Option.map_eq_some_iff.mp h
    exact ⟨_, _, hfault.symm⟩

theorem misfit_of_finish {tree : Tree} {r : Reader} {fault : Fault}
    (hgrown : g.GrownFrom f (Symbol.split source.toList))
    (h : finish source g tree r = .error fault) :
    fault.IsIllFormed ∨ Misfit source f fault := by
  cases hsettle : settleFlags g with
  | error fault' =>
      rw [finish_of_settleFlags_error hsettle] at h
      cases h
      right
      rcases settleFlags_eq_error_iff.mp hsettle with
        ⟨hlocale, rfl⟩ | ⟨_, hascii, hunicode, rfl⟩
      · exact .locale (has_locale_of_demanded (demanded_of_grown hgrown hlocale))
      · exact .alphabets (demanded_of_grown hgrown hascii) (demanded_of_grown hgrown hunicode)
  | ok final =>
      rw [finish_of_settleFlags hsettle] at h
      split at h
      next late hlate =>
        cases h
        exact .inl (illFormed_of_lateFault? hlate)
      next =>
        split at h
        · cases h
        next hfits =>
          cases h
          obtain ⟨on, rfl, _⟩ := hgrown
          rw [f.fits_turnOnAll_iff] at hfits
          exact .inr (.range hfits)

theorem error_of_bind_eq_error {ε α β : Type} {x : Except ε α} {k : α → Except ε β} {e : ε}
    (h : x >>= k = .error e) :
    x = .error e ∨ ∃ a, x = .ok a ∧ k a = .error e := by
  cases x with
  | error e' =>
      cases h
      exact .inl rfl
  | ok a => exact .inr ⟨a, rfl, h⟩

theorem readTree_keeps {whole : List Symbol} (flags : Flags) :
    Reading.Keeps whole (readTree flags) :=
  .get_bind fun _ _ => Reading.tree_keeps _ _ _

theorem misfit_of_compile {fault : Fault} (h : compile source f characters = .error fault) :
    fault.IsIllFormed ∨ Misfit source f fault := by
  have hexplained : Explained (Symbol.split source.toList) fault →
      fault.IsIllFormed ∨ Misfit source f fault :=
    Or.imp id .number
  have hahead : Reading.Keeps (Symbol.split source.toList) Reading.checkAhead :=
    Reading.checkAhead_keeps
  unfold compile at h
  rcases error_of_bind_eq_error h with hstart | ⟨⟨_, start⟩, hstart, h⟩
  · exact hexplained (hahead.explained List.suffix_rfl hstart)
  have hrest := hahead.reached List.suffix_rfl hstart
  rcases error_of_bind_eq_error h with hheader | ⟨⟨final, body⟩, hheader, h⟩
  · exact hexplained ((Reading.header_proceeds _ f).explained hrest hheader)
  have hbody := (Reading.header_proceeds _ f).reached hrest hheader
  rcases error_of_bind_eq_error h with htree | ⟨⟨tree, r⟩, htree, hfinish⟩
  · exact hexplained ((readTree_keeps final).explained hbody.1 htree)
  · exact misfit_of_finish hbody.2 hfinish

/-! ## Other flags for a pattern that compiles -/

theorem ofFlags_turnOnAll (h : Style.ofFlags f = Style.ofFlags g) (on : List Switch) :
    Style.ofFlags (f.turnOnAll on) = Style.ofFlags (g.turnOnAll on) := by
  have hmore : ∀ u, f.has u = g.has u → (f.turnOnAll on).has u = (g.turnOnAll on).has u := by
    intro u hu
    rw [Bool.eq_iff_iff, Flags.has_turnOnAll_iff, Flags.has_turnOnAll_iff, hu]
  unfold Style.ofFlags at h ⊢
  simp only [Style.mk.injEq] at h ⊢
  exact ⟨hmore _ h.1, hmore _ h.2.1, hmore _ h.2.2.1, hmore _ h.2.2.2.1,
    hmore _ h.2.2.2.2.1, hmore _ h.2.2.2.2.2⟩

/-- With flags that give the same style the header turns on the same switches. -/
theorem header_of_same_style {limit : Nat} {r r' : Reader} {final : Flags}
    (h : (Reading.header limit g).run r = .ok (final, r'))
    (hstyle : Style.ofFlags f = Style.ofFlags g) :
    ∃ on, final = g.turnOnAll on ∧
      (Reading.header limit f).run r = .ok (f.turnOnAll on, r') := by
  induction limit generalizing f g r with
  | zero =>
      cases h
      exact ⟨[], rfl, rfl⟩
  | succ limit ih =>
      have hverbose : f.has .verbose = g.has .verbose := congrArg Style.verbose hstyle
      rw [Reading.header_succ] at h ⊢
      rw [hverbose]
      split at h
      next => cases h
      next on r₁ hitem =>
        rcases ih h (ofFlags_turnOnAll hstyle on) with ⟨on', hfinal, hrun⟩
        simp only [← Flags.turnOnAll_append] at hfinal hrun
        exact ⟨on ++ on', hfinal, hrun⟩
      next => exact ih h hstyle
      next =>
        cases h
        exact ⟨[], rfl, rfl⟩

theorem lateFault?_of_finish {tree : Tree} {r : Reader} {p : Pattern}
    (h : finish source f tree r = .ok p) :
    lateFault? (.ofFlags f) tree r = none ∧ f.Fits := by
  rw [finish_of_settleFlags (finish_eq_ok h).1] at h
  split at h
  next => cases h
  next hlate =>
    split at h
    next hfits => exact ⟨hlate, hfits⟩
    next => cases h

/-- The switches that the pattern turns on cannot be what is wrong, if they go together. -/
theorem finish_turnOnAll {on : List Switch} {tree : Tree} {r : Reader}
    (hlocale : .locale ∉ on) (halphabet : (f.turnOnAll on).has .ascii = true → .unicode ∉ on)
    (hlate : lateFault? (.ofFlags (f.turnOnAll on)) tree r = none) :
    match f.misfit? ((f.turnOnAll on).has .ascii) with
    | some fault => finish source (f.turnOnAll on) tree r = .error fault
    | none => ∃ q, finish source (f.turnOnAll on) tree r = .ok q := by
  have hlocale' : (f.turnOnAll on).has .locale = f.has .locale := by
    rw [Bool.eq_iff_iff, f.has_turnOnAll_iff]
    simp [hlocale]
  have hunicode : (f.turnOnAll on).has .ascii = true →
      (f.turnOnAll on).has .unicode = f.has .unicode := by
    intro hascii
    rw [Bool.eq_iff_iff, f.has_turnOnAll_iff]
    simp [halphabet hascii]
  unfold Flags.misfit?
  cases hsettle : settleFlags (f.turnOnAll on) with
  | error fault =>
      rw [finish_of_settleFlags_error hsettle]
      rcases settleFlags_eq_error_iff.mp hsettle with ⟨h, rfl⟩ | ⟨h, hascii, h', rfl⟩
      · simp [← hlocale', h]
      · simp [← hlocale', h, hascii, ← hunicode hascii, h']
  | ok final =>
      rw [finish_of_settleFlags hsettle, hlate]
      simp only [f.fits_turnOnAll_iff]
      have hnone : (f.has .locale = false) ∧
          ((f.turnOnAll on).has .ascii && f.has .unicode) = false := by
        rcases settleFlags_eq_ok_iff.mp hsettle with ⟨h, ⟨hascii, h', _⟩ | ⟨hascii, _⟩⟩
        · rw [← hlocale', ← hunicode hascii, hascii]
          exact ⟨h, h'⟩
        · rw [← hlocale', hascii]
          exact ⟨h, rfl⟩
      by_cases hfits : f.Fits
      · simp [hnone, hfits]
      · simp [hnone, hfits]

/-- A pattern that compiles with some flags has nothing wrong with it but a misfit of
other ones that give the same style. -/
theorem compile_of_same_style {p : Pattern} (h : compile source g characters = .ok p)
    (hstyle : Style.ofFlags f = Style.ofFlags g) :
    match f.misfit? (p.flags.has .ascii) with
    | some fault => compile source f characters = .error fault
    | none => ∃ q, compile source f characters = .ok q := by
  rcases compile_eq_ok h with ⟨start, final, body, tree, r, hstart, hheader, htree, hfinish⟩
  rcases header_of_same_style hheader hstyle with ⟨on, rfl, hheader'⟩
  have hsame := ofFlags_turnOnAll hstyle on
  rw [← readTree_eq_of_style hsame] at htree
  have hsettle := (finish_eq_ok hfinish).1
  have hascii : p.flags.has .ascii = (f.turnOnAll on).has .ascii :=
    congrArg Style.ascii ((ofFlags_of_settleFlags hsettle).trans hsame.symm)
  have hascii' : (g.turnOnAll on).has .ascii = (f.turnOnAll on).has .ascii :=
    congrArg Style.ascii hsame.symm
  rcases settleFlags_eq_ok_iff.mp hsettle with ⟨hlocale, halphabet⟩
  rw [hascii, compile_of_stages hstart hheader' htree]
  have hlate := (lateFault?_of_finish hfinish).1
  rw [← hsame] at hlate
  refine finish_turnOnAll ?_ ?_ hlate
  · intro hmem
    have hon := (g.has_turnOnAll_iff on .locale).mpr (.inr hmem)
    cases hlocale.symm.trans hon
  · intro h hmem
    rw [← hascii'] at h
    rcases halphabet with ⟨_, hunicode, _⟩ | ⟨hnone, _⟩
    · have hon := (g.has_turnOnAll_iff on .unicode).mpr (.inr hmem)
      cases hunicode.symm.trans hon
    · cases hnone.symm.trans h

end Pattern

/-! ## Definitions -/

namespace Definition

theorem build_of_compile_error {source : Text} {flags : Pattern.Flags} {b : Bench}
    {fault : Pattern.Fault}
    (hcompile : Pattern.compile source flags b.characters = .error fault) {kind : Datum}
    (hkind : kind ≠ .none) :
    build kind (.datum (.text source)) flags b = (.error (.badPattern source fault), b) := by
  simp only [build, if_neg hkind, matcherOf, Matcher.ofSource, hcompile]

def EndsWell (outcome : Except BuildFault Definition) : Prop :=
  (∃ d, outcome = .ok d) ∨ ∃ e, outcome = .error e ∧ e.errorClass = .invalidArgument

theorem endsWell_ok (d : Definition) : EndsWell (.ok d) :=
  .inl ⟨d, rfl⟩

theorem endsWell_error_iff {e : BuildFault} :
    EndsWell (.error e) ↔ e.errorClass = .invalidArgument := by
  simp [EndsWell]

theorem not_endsWell_of_compile_error {source : Text} {flags : Pattern.Flags} {b : Bench}
    {fault : Pattern.Fault}
    (hcompile : Pattern.compile source flags b.characters = .error fault)
    (hclass : fault.errorClass ≠ .invalidArgument) {kind : Datum} (hkind : kind ≠ .none) :
    ¬ EndsWell (build kind (.datum (.text source)) flags b).1 := by
  rw [build_of_compile_error hcompile hkind, endsWell_error_iff]
  exact hclass

end Definition

theorem Pattern.Misfit.errorClass_ne {source : Text} {flags : Pattern.Flags}
    {fault : Pattern.Fault} (h : Pattern.Misfit source flags fault) :
    fault.errorClass ≠ .invalidArgument := by
  cases h with
  | number h => cases h <;> nofun
  | _ => nofun

theorem Pattern.errorClass_misfit? {flags : Flags} {ascii : Bool} {fault : Fault}
    (h : flags.misfit? ascii = some fault) :
    fault.errorClass ≠ .invalidArgument := by
  unfold Flags.misfit? at h
  split at h
  · cases h
    nofun
  · split at h
    · cases h
      nofun
    · split at h
      · cases h
      · cases h
        nofun

theorem counted_endsWell_iff {kind : Datum} (hkind : kind ≠ .none) {digits : List Nat}
    (hdigits : ∀ d ∈ digits, CodePoint.isAsciiDigit d = true) (hne : digits ≠ []) (b : Bench) :
    Definition.EndsWell
        (Definition.build kind (.datum (.text (Pattern.counted digits))) .none b).1 ↔
      digits.length ≤ Numeral.maxDigits ∧ Pattern.decimalValue digits < Pattern.unbounded := by
  have hcompile := Pattern.compile_counted hdigits hne b.characters
  rcases Pattern.Reading.boundValue_cases digits with ⟨hshort, hsmall, hvalue⟩ | ⟨hnot, hvalue⟩
  · rw [hvalue] at hcompile
    rcases hcompile with ⟨p, hp⟩
    rw [Definition.build_of_compile hp hkind]
    exact iff_of_true (Definition.endsWell_ok _) ⟨hshort, hsmall⟩
  · refine iff_of_false ?_ hnot
    rcases hvalue with hvalue | hvalue
    · rw [hvalue] at hcompile
      exact Definition.not_endsWell_of_compile_error hcompile nofun hkind
    · rw [hvalue] at hcompile
      exact Definition.not_endsWell_of_compile_error hcompile nofun hkind

/-- If a construction fails with an error other than an invalid argument, then a number or the
flags do not fit and it is this that comes out.  A pattern that compiles with some flags can be
constructed with all those that fit among the ones that give it the same style, and with the
others their misfit comes out.  A letter with a number in braces can be constructed just if the
number is not too large and not too long. -/
theorem construction_ends_well_iff {kind : Datum} (hkind : kind ≠ .none) (b : Bench) :
    (∀ (source : Text) (flags : Pattern.Flags),
      let outcome := (Definition.build kind (.datum (.text source)) flags b).1
      (¬ Definition.EndsWell outcome → ∃ fault, Pattern.Misfit source flags fault ∧
        outcome = .error (.badPattern source fault)) ∧
      (∀ fault, Pattern.Misfit source flags fault →
        outcome = .error (.badPattern source fault) → ¬ Definition.EndsWell outcome) ∧
      ∀ (g : Pattern.Flags) (p : Pattern), Pattern.compile source g b.characters = .ok p →
        Pattern.Style.ofFlags flags = Pattern.Style.ofFlags g →
        match flags.misfit? (p.flags.has .ascii) with
        | some fault => outcome = .error (.badPattern source fault) ∧
            ¬ Definition.EndsWell outcome
        | none => ∃ q, outcome = .ok ⟨kind, .pattern q⟩) ∧
    ∀ digits : List Nat, (∀ d ∈ digits, CodePoint.isAsciiDigit d = true) → digits ≠ [] →
      (Definition.EndsWell
          (Definition.build kind (.datum (.text (Pattern.counted digits))) .none b).1 ↔
        digits.length ≤ Numeral.maxDigits ∧
          Pattern.decimalValue digits < Pattern.unbounded) := by
  refine ⟨?_, fun digits hdigits hne => counted_endsWell_iff hkind hdigits hne b⟩
  intro source flags outcome
  refine ⟨?_, ?_, ?_⟩
  · intro hbad
    cases hcompile : Pattern.compile source flags b.characters with
    | ok p =>
        have houtcome : outcome = .ok ⟨kind, .pattern p⟩ :=
          congrArg Prod.fst (Definition.build_of_compile hcompile hkind)
        rw [houtcome] at hbad
        exact absurd (Definition.endsWell_ok _) hbad
    | error fault =>
        have houtcome : outcome = .error (.badPattern source fault) :=
          congrArg Prod.fst (Definition.build_of_compile_error hcompile hkind)
        rcases Pattern.misfit_of_compile hcompile with ⟨problem, position, rfl⟩ | hmisfit
        · rw [houtcome, Definition.endsWell_error_iff] at hbad
          exact absurd rfl hbad
        · exact ⟨fault, hmisfit, houtcome⟩
  · intro fault hmisfit houtcome
    rw [houtcome, Definition.endsWell_error_iff]
    exact hmisfit.errorClass_ne
  · intro g p hp hstyle
    have hcompile := Pattern.compile_of_same_style hp hstyle
    cases hmisfit : flags.misfit? (p.flags.has .ascii) with
    | some fault =>
        rw [hmisfit] at hcompile
        exact ⟨congrArg Prod.fst (Definition.build_of_compile_error hcompile hkind),
          Definition.not_endsWell_of_compile_error hcompile
            (Pattern.errorClass_misfit? hmisfit) hkind⟩
    | none =>
        rw [hmisfit] at hcompile
        rcases hcompile with ⟨q, hq⟩
        exact ⟨q, congrArg Prod.fst (Definition.build_of_compile hq hkind)⟩

/-- With the flag of the locale a letter cannot be constructed, and with a number it can
up to the first that is too large. -/
theorem construction_ends_well_iff_locale :
    ∃ p, Pattern.compile #[97] .none = .ok p ∧
      let outcome := (Definition.build (.int 1) (.datum (.text #[97])) ⟨4⟩ .empty).1
      outcome = .error (.badPattern #[97] .localeNeedsBytes) ∧
        ¬ Definition.EndsWell outcome ∧
        (∃ fault, Pattern.Misfit #[97] ⟨4⟩ fault ∧
          outcome = .error (.badPattern #[97] fault)) ∧
        Definition.EndsWell (Definition.build (.int 1)
          (.datum (.text (text "a\x7b4294967294\x7d"))) .none .empty).1 := by
  have hkind : Datum.int 1 ≠ .none := nofun
  let p : Pattern := ⟨#[97], ⟨32⟩, .char ⟨false, [.point 97], .exact⟩⟩
  have hcompile : Pattern.compile #[97] .none = .ok p := by rfl
  obtain ⟨hall, hcounted⟩ := construction_ends_well_iff hkind .empty
  obtain ⟨hmisfit, _, hflags⟩ := hall #[97] ⟨4⟩
  have hlocale := hflags .none p hcompile (by decide)
  have hfits := hcounted ((text "4294967294").toList) (by decide) (by decide)
  exact ⟨p, hcompile, hlocale.1, hlocale.2, hmisfit hlocale.2, hfits.mpr (by decide +kernel)⟩

theorem repetition_ends_badly :
    ¬ ∀ (kind : Datum) (source : Text) (flags : Pattern.Flags) (b : Bench), kind ≠ .none →
      Definition.EndsWell (Definition.build kind (.datum (.text source)) flags b).1 := by
  intro h
  have hkind : Datum.text (text "t") ≠ .none := nofun
  have hcompile : Pattern.compile (text "a\x7b4294967295\x7d") .none =
      .error .repetitionTooLarge := by decide +kernel
  exact Definition.not_endsWell_of_compile_error (b := .empty) hcompile nofun hkind
    (h _ (text "a\x7b4294967295\x7d") .none .empty hkind)

end FirstMatch
