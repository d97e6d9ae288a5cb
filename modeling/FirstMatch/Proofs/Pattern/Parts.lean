import FirstMatch.Proofs.Pattern.Reading
import Mathlib.Algebra.Group.Nat.Defs

/-!
# What stops the parts of a pattern

Most parts start anywhere in the pattern and end somewhere behind.  Only those that read a
number also have to know what was taken in front of it, because a number that does not fit
is shown with the symbols around it.
-/

namespace FirstMatch.Pattern.Reading

variable {α : Type} {whole : List Symbol}

/-! ## Escapes -/

theorem foldl_digits_lt {base : Nat} {digit? : Nat → Option Nat} (hbase : 0 < base)
    (hdigit : ∀ c d, digit? c = some d → d < base) (digits : List Nat) (n : Nat) :
    (digits.filterMap digit?).foldl (fun n d => base * n + d) n <
      (n + 1) * base ^ digits.length := by
  induction digits generalizing n with
  | nil => simp
  | cons c digits ih =>
      have hpow : base ^ (c :: digits).length = base * base ^ digits.length :=
        Nat.pow_succ'
      rw [hpow, ← Nat.mul_assoc]
      cases hc : digit? c with
      | none =>
          rw [List.filterMap_cons_none hc]
          have hgrow : n + 1 ≤ (n + 1) * base := Nat.le_mul_of_pos_right _ hbase
          exact Nat.lt_of_lt_of_le (ih n) (Nat.mul_le_mul_right _ hgrow)
      | some d =>
          rw [List.filterMap_cons_some hc, List.foldl_cons]
          have hd := hdigit c d hc
          have hgrow : base * n + d + 1 ≤ (n + 1) * base := by
            rw [Nat.add_mul, Nat.mul_comm n]
            omega
          exact Nat.lt_of_lt_of_le (ih _) (Nat.mul_le_mul_right _ hgrow)

theorem digitsValue_lt {base : Nat} {digit? : Nat → Option Nat} (hbase : 0 < base)
    (hdigit : ∀ c d, digit? c = some d → d < base) (digits : List Nat) :
    digitsValue base digit? digits < base ^ digits.length := by
  simpa [digitsValue] using foldl_digits_lt hbase hdigit digits 0

theorem hexValue?_lt {c d : Nat} (h : CodePoint.hexValue? c = some d) : d < 16 := by
  unfold CodePoint.hexValue? at h
  split at h
  · cases h
    omega
  split at h
  · cases h
    omega
  split at h
  · cases h
    omega
  · cases h

/-- Four hexadecimal digits always fit, and only the letter `U` asks for more. -/
theorem hexEscape_proceeds {letter count : Nat}
    (hcount : count ≤ 4 ∨ letter = 'U'.toNat ∧ count = 8) :
    Proceeds whole (Behind whole [.escaped letter]) (hexEscape letter count)
      fun _ => Within whole := by
  refine (takeWhile_proceeds _ count _).bind fun digits => ?_
  dsimp only
  split
  next => exact .stop (.fail _ _)
  next hlength =>
    split
    next hlarge =>
      refine .assume fun rest hrest => .stop (.throw ?_)
      have hsmall : digitsValue 16 CodePoint.hexValue? digits < 16 ^ digits.length :=
        digitsValue_lt (by decide) (fun _ _ => hexValue?_lt) digits
      rcases hcount with hfour | ⟨rfl, rfl⟩
      · have hpow : 16 ^ digits.length ≤ 16 ^ 4 := Nat.pow_le_pow_right (by decide) (by omega)
        simp only [lastCandidate] at hlarge
        omega
      · exact .codePoint hrest.1.among (by omega) hlarge
    next =>
      split
      · exact .stop (.fail _ _)
      · exact .pure fun _ h => h.1.within

theorem namedEscape_keeps : Keeps whole namedEscape := by
  refine .bind (accept_keeps _) fun taken => ?_
  dsimp only
  split
  · refine (name_keeps _ _).bind fun _ => .get_bind fun _ _ => ?_
    split
    · exact .keep
    · exact .fail _ _
  · exact .stop (.fail _ _)

theorem octalEscape_keeps (digits : List Nat) : Keeps whole (octalEscape digits) := by
  unfold octalEscape
  dsimp only
  split
  · exact .stop (.fail _ _)
  · exact .keep

theorem itselfEscape_keeps (c : Nat) : Keeps whole (itselfEscape c) := by
  unfold itselfEscape
  dsimp only
  split
  · exact .stop (.fail _ _)
  · exact .keep

theorem toNat_of_ascii? {c : Nat} {k : Char} (h : CodePoint.ascii? c = some k) :
    k.toNat = c := by
  have hascii : ∀ c < 128, (Char.ofNat c).toNat = c := by decide
  unfold CodePoint.ascii? at h
  split at h
  next hc =>
    cases h
    exact hascii c hc
  next => cases h

theorem codePointEscape_proceeds (c : Nat) :
    Proceeds whole (Behind whole [.escaped c]) (codePointEscape c) fun _ => Within whole := by
  unfold codePointEscape
  split
  · exact .behind .keep
  · exact hexEscape_proceeds (.inl (by decide))
  · exact hexEscape_proceeds (.inl (by decide))
  next _ hletter => exact hexEscape_proceeds (.inr ⟨(toNat_of_ascii? hletter).symm, rfl⟩)
  · exact .behind namedEscape_keeps
  · exact .behind (itselfEscape_keeps c)

/-! ## Classes -/

theorem classEscape_proceeds (c : Nat) :
    Proceeds whole (Behind whole [.escaped c]) (classEscape c) fun _ => Within whole := by
  unfold classEscape
  split
  · exact .behind .keep
  split
  · exact .behind .keep
  split
  · exact .behind ((takeWhile_keeps _ 2).bind fun _ =>
      (octalEscape_keeps _).bind fun _ => .keep)
  · exact (codePointEscape_proceeds c).bind fun _ => .keep

theorem member_proceeds (s : Symbol) :
    Proceeds whole (Behind whole [s]) (member s) fun _ => Within whole := by
  cases s with
  | plain c => exact .behind .keep
  | escaped c => exact classEscape_proceeds c
  | dangling => exact .behind .keep

theorem range_keeps (first last : Symbol) (a b : Member) :
    Keeps whole (range first last a b) := by
  unfold range badRange
  split
  · split
    · exact .fail _ _
    · exact .keep
  · exact .fail _ _

theorem classItems_keeps (style : Style) (start limit : Nat) (items : List Item) :
    Keeps whole (classItems style start limit items) := by
  induction limit generalizing items with
  | zero => exact .failAt _ _
  | succ limit ih =>
      unfold classItems
      refine next_behind.bind fun s? => ?_
      split
      · exact .failAt _ _
      next first =>
        split
        · exact .behind .keep
        refine (member_proceeds first).bind fun a => (accept_keeps _).bind fun minus => ?_
        split
        · refine next_behind.bind fun s? => ?_
          split
          · exact .failAt _ _
          next last =>
            split
            · exact .behind .keep
            · exact (member_proceeds last).bind fun b =>
                (range_keeps first last a b).bind fun _ => ih _
        · exact ih _

theorem charClass_keeps (style : Style) (start : Nat) : Keeps whole (charClass style start) :=
  (accept_keeps _).bind fun _ => .get_bind fun _ _ =>
    (classItems_keeps style start _ []).bind fun _ => .keep

/-! ## Flags -/

theorem noFlag_proceeds (s : Symbol) (wanted : Problem)
    (P : List Symbol → Prop) (Q : α → List Symbol → Prop) :
    Proceeds whole P (noFlag s wanted) Q := by
  unfold noFlag
  split
  · exact .fail _ _
  · exact .fail _ _

theorem flagsOn_proceeds {limit : Nat} {on : List Switch} {s : Switch}
    {front letters : List Symbol} (hletters : letters.map switch? = (s :: on).reverse.map some)
    (hon : .locale ∉ on) :
    Proceeds whole (Behind whole (front ++ letters)) (flagsOn limit on s) fun result rest =>
      ∃ letters, Letters letters result.1 ∧
        Behind whole (front ++ letters ++ [result.2]) rest := by
  induction limit generalizing on s letters with
  | zero => exact .fail _ _
  | succ limit ih =>
      unfold flagsOn
      dsimp only
      split
      · exact .stop (.fail _ _)
      next hlocale =>
        split
        · exact .stop (.fail _ _)
        refine (next_proceeds _).bind fun symbol? => ?_
        split
        · exact .fail _ _
        next symbol =>
          have hletters' : Letters letters (s :: on) :=
            ⟨hletters, by simp [Ne.symm hlocale, hon]⟩
          split
          · exact .pure fun rest h => ⟨letters, hletters', h⟩
          split
          next s' hs' =>
            have hmore : (letters ++ [symbol]).map switch? =
                (s' :: s :: on).reverse.map some := by
              rw [List.map_append, hletters, List.reverse_cons, List.map_append]
              simp [hs']
            have hrest := ih hmore hletters'.2
            rw [← List.append_assoc] at hrest
            exact hrest
          · exact noFlag_proceeds _ _ _ _

theorem flagsOff_keeps (limit : Nat) (off : List Switch) (s : Switch) :
    Keeps whole (flagsOff limit off s) := by
  induction limit generalizing off s with
  | zero => exact .fail _ _
  | succ limit ih =>
      unfold flagsOff
      dsimp only
      split
      · exact .stop (.fail _ _)
      refine next_keeps.bind fun symbol? => ?_
      split
      · exact .fail _ _
      split
      · exact .keep
      split
      · exact ih _ _
      · exact noFlag_proceeds _ _ _ _

theorem flagsAfterMinus_keeps : Keeps whole flagsAfterMinus := by
  refine next_keeps.bind fun symbol? => ?_
  split
  · exact .fail _ _
  split
  · exact .get_bind fun _ _ => flagsOff_keeps _ _ _
  · exact noFlag_proceeds _ _ _ _

theorem flagsWithOff_proceeds (on : List Switch) :
    Proceeds whole (Within whole) (flagsWithOff on) fun result rest =>
      Within whole rest ∧ ∀ on, result ≠ .whole on := by
  refine flagsAfterMinus_keeps.bind fun off => ?_
  dsimp only
  split
  · exact .stop (.fail _ _)
  split
  · exact .stop (.fail _ _)
  · exact .pure fun _ h => ⟨h, nofun⟩

theorem inlineFlags_proceeds (front : List Symbol) (symbol : Symbol) :
    Proceeds whole (Behind whole (front ++ [symbol])) (inlineFlags symbol) fun result rest =>
      Within whole rest ∧ ∀ on, result = some (.whole on) →
        ∃ letters, Letters letters on ∧ front ++ letters ++ [.plain ')'.toNat] <:+: whole := by
  have hscoped : ∀ on, Proceeds whole (Within whole)
      (do return some (← flagsWithOff on)) fun result rest =>
        Within whole rest ∧ ∀ on, result = some (.whole on) →
          ∃ letters, Letters letters on ∧
            front ++ letters ++ [.plain ')'.toNat] <:+: whole := by
    intro on
    refine (flagsWithOff_proceeds on).bind fun result => .pure ?_
    rintro rest ⟨hrest, hresult⟩
    exact ⟨hrest, fun on hon => absurd (Option.some.inj hon) (hresult on)⟩
  unfold inlineFlags
  split
  next s hs =>
    have hletters : [symbol].map switch? = [s].reverse.map some := by simp [hs]
    refine .get_bind fun r _ => (flagsOn_proceeds hletters (by simp)).bind ?_
    rintro ⟨on, ending⟩
    dsimp only
    split
    next hending =>
      refine .pure ?_
      rintro rest ⟨letters, hletters, hrest⟩
      refine ⟨hrest.within, ?_⟩
      rintro _ ⟨⟩
      rw [eq_plain_of_is hending] at hrest
      exact ⟨letters, hletters, hrest.among⟩
    next =>
      split
      · exact .stop (.fail _ _)
      split
      · exact .pure fun rest ⟨_, _, hrest⟩ => ⟨hrest.within, nofun⟩
      · exact (hscoped on).imp (fun _ ⟨_, _, hrest⟩ => hrest.within) fun _ _ => id
  next =>
    split
    · exact .behind (hscoped [])
    · exact .behind (.pure fun _ h => ⟨h, nofun⟩)

/-! ## Groups -/

theorem checkLookBehind_keeps (f : Frame) (group : Nat) :
    Keeps whole (checkLookBehind f group) := by
  unfold checkLookBehind
  split
  · exact .keep
  refine (closedWidth?_keeps group).bind fun width? => ?_
  dsimp only
  split
  · exact .stop (.fail _ _)
  split
  · exact .fail _ _
  · exact .keep

theorem referencePiece_keeps (f : Frame) (group : Nat) (width : Width) :
    Keeps whole (referencePiece f group width) :=
  (checkLookBehind_keeps f group).bind fun _ => .keep

theorem numberedEscape_keeps (f : Frame) (c : Nat) : Keeps whole (numberedEscape f c) := by
  refine (takeWhile_keeps _ 1).bind fun more => ?_
  refine .branch_bind (fun _ => takeWhile_keeps _ 1) (fun _ => .keep) fun third => ?_
  dsimp only
  split
  · exact (octalEscape_keeps _).bind fun _ => .keep
  refine groupCount_keeps.bind fun count => ?_
  split
  · exact .stop (.fail _ _)
  refine (closedWidth?_keeps _).bind fun width? => ?_
  split
  · exact .fail _ _
  · exact referencePiece_keeps _ _ _

theorem escape_proceeds (f : Frame) (c : Nat) :
    Proceeds whole (Behind whole [.escaped c]) (escape f c) fun _ => Within whole := by
  unfold escape
  split
  · exact .behind .keep
  · exact .behind .keep
  · split
    · exact .behind ((takeWhile_keeps _ 2).bind fun _ =>
        (octalEscape_keeps _).bind fun _ => .keep)
    split
    · exact .behind (numberedEscape_keeps f c)
    · exact (codePointEscape_proceeds c).bind fun _ => .keep

theorem groupName_keeps (terminator : Char) : Keeps whole (groupName terminator) := by
  refine (name_keeps _ _).bind fun name => ?_
  dsimp only
  split
  · exact .keep
  · exact .stop (.fail _ _)

theorem namedGroup_keeps (name : Text) : Keeps whole (namedGroup name) := by
  refine .get_bind fun r _ => ?_
  split
  · exact .keep
  · exact .fail _ _

theorem openCapture_keeps (name? : Option Text) : Keeps whole (openCapture name?) := by
  refine .get_bind fun r hr => ?_
  dsimp only
  split
  · exact .bind (.set hr) fun _ => .keep
  split
  · exact .fail _ _
  · exact .bind (.set hr) fun _ => .keep

theorem closeCapture_keeps (group : Nat) (width : Width) :
    Keeps whole (closeCapture group width) :=
  .modify fun _ => rfl

theorem comment_keeps (start limit : Nat) : Keeps whole (comment start limit) := by
  induction limit with
  | zero => exact .failAt _ _
  | succ limit ih =>
      refine next_keeps.bind fun s? => ?_
      split
      · exact .failAt _ _
      split
      · exact .keep
      · exact ih

theorem named_keeps (f : Frame) (start : Nat) : Keeps whole (named f start) := by
  refine (accept_keeps _).bind fun angle => ?_
  split
  · exact (groupName_keeps _).bind fun name => (openCapture_keeps _).bind fun _ => .keep
  refine (accept_keeps _).bind fun equals => ?_
  split
  · refine (groupName_keeps _).bind fun name => (namedGroup_keeps name).bind fun group =>
      (closedWidth?_keeps group).bind fun width? => ?_
    split
    · exact .fail _ _
    · exact (referencePiece_keeps _ _ _).bind fun _ => .keep
  · refine next_keeps.bind fun s? => ?_
    split
    · exact .fail _ _
    · exact .fail _ _

theorem conditionGroup_keeps : Keeps whole conditionGroup := by
  refine (name_keeps _ _).bind fun name => ?_
  split
  · exact namedGroup_keeps name
  split
  · exact .fail _ _
  dsimp only
  split
  · exact .stop (.fail _ _)
  split
  · exact .stop (.fail _ _)
  split
  · exact .stop (.fail _ _)
  refine .get_bind fun r hr => ?_
  split
  · exact .bind (.set hr) fun _ => .keep
  · exact .keep

theorem lookBehind_keeps (f : Frame) (start : Nat) : Keeps whole (lookBehind f start) := by
  refine next_keeps.bind fun s? => ?_
  split
  · exact .fail _ _
  split
  · exact groupCount_keeps.bind fun _ => .keep
  · exact .fail _ _

theorem extension_keeps (f : Frame) (start : Nat) : Keeps whole (extension f start) := by
  refine next_behind.bind fun s? => ?_
  split
  · exact .fail _ _
  next s =>
    split
    · exact .behind (named_keeps f start)
    split
    · exact .behind .keep
    split
    · exact .behind (.get_bind fun _ _ => (comment_keeps _ _).bind fun _ => .keep)
    split
    · exact .behind .keep
    split
    · exact .behind (lookBehind_keeps f start)
    split
    · exact .behind (conditionGroup_keeps.bind fun group =>
        (checkLookBehind_keeps f group).bind fun _ => .keep)
    split
    · exact .behind .keep
    refine (inlineFlags_proceeds [] s).bind fun flags? => ?_
    split
    · exact .failAt _ _
    · exact .pure fun _ h => h.1
    · exact .fail _ _

theorem opening_keeps (f : Frame) (start : Nat) : Keeps whole (opening f start) := by
  refine (accept_keeps _).bind fun question => ?_
  split
  · exact extension_keeps f start
  · exact (openCapture_keeps none).bind fun _ => .keep

theorem closing_keeps (f : Frame) : Keeps whole (closing f) := by
  unfold closing
  dsimp only
  split
  · exact .keep
  · exact .keep
  · exact (closeCapture_keeps _ _).bind fun _ => .keep
  · exact .keep
  · exact .keep
  · exact .keep
  · split
    · exact .keep
    · exact .keep

/-! ## Quantifiers -/

theorem skipLine_keeps (limit : Nat) : Keeps whole (skipLine limit) := by
  induction limit with
  | zero => exact .keep
  | succ limit ih =>
      refine next_keeps.bind fun s? => ?_
      split
      · exact .keep
      split
      · exact .keep
      · exact ih

theorem bound_keeps {digits : List Nat} (h : IsBound whole digits) :
    Keeps whole (bound digits) := by
  unfold bound
  dsimp only
  split
  next hlong => exact .stop (.throw (.digits h hlong))
  next =>
    split
    next hlarge => exact .stop (.throw (.bound h hlarge))
    next => exact .keep

theorem bounds_proceeds :
    Proceeds whole (Behind whole [.plain '\x7b'.toNat]) bounds fun _ => Within whole := by
  refine .get_bind fun before hbefore => (nextIs_proceeds _ _).bind fun empty => ?_
  split
  · exact .pure fun _ h => h.2.within
  refine .forget ?_
  refine (takeAllWhile_proceeds _ _).bind fun lo => .known fun hlo => ?_
  refine (accept_proceeds _ _).bind fun comma => ?_
  -- The second bound is either written behind a comma or the first one once more.
  refine .branch_bind (Q := fun hi rest => ∃ most?, Behind whole (openBounds lo most?) rest ∧
    (hi = lo ∨ most? = some hi) ∧ ∀ d ∈ hi, CodePoint.isAsciiDigit d = true) ?_ ?_ fun hi => ?_
  · rintro rfl
    refine (takeAllWhile_proceeds _ _).imp (fun _ => id) ?_
    rintro hi rest ⟨hrest, hhi⟩
    exact ⟨some hi, by simpa [openBounds] using hrest, .inr rfl, hhi⟩
  · intro hcomma
    refine .pure fun rest hrest => ⟨none, ?_, .inl rfl, hlo⟩
    simpa [openBounds, hcomma] using hrest
  refine .ofExists fun most? => .known fun ⟨hhi, hdigits⟩ => ?_
  refine (accept_proceeds _ _).bind fun closed => ?_
  split
  next hclosed =>
    subst hclosed
    refine .assume fun rest hrest => ?_
    have hleast : IsBound whole lo := ⟨lo, most?, hrest.among, .inl rfl, hlo⟩
    have hmost : IsBound whole hi := ⟨lo, most?, hrest.among, hhi, hdigits⟩
    refine .behind ?_
    refine .branch_bind (fun _ => .keep) (fun _ => bound_keeps hleast) fun least => ?_
    split
    · exact .keep
    refine (bound_keeps hmost).bind fun most => ?_
    dsimp only
    split
    · exact .stop (.failAt _ _)
    · exact .keep
  next => exact .bind (.set hbefore.within) fun _ => .keep

theorem quantifier?_proceeds (s : Symbol) :
    Proceeds whole (Behind whole [s]) (quantifier? s) fun _ => Within whole := by
  unfold quantifier?
  split
  · exact .behind .keep
  split
  · exact .behind .keep
  split
  · exact .behind .keep
  split
  next hbrace =>
    rw [eq_plain_of_is hbrace]
    exact bounds_proceeds
  next => exact .behind .keep

theorem greed_keeps : Keeps whole greed := by
  refine (accept_keeps _).bind fun question => ?_
  split
  · exact .keep
  refine (accept_keeps _).bind fun plus => ?_
  split
  · exact .keep
  · exact .keep

theorem quantify_keeps (f : Frame) (position least : Nat) (most : Option Nat) :
    Keeps whole (quantify f position least most) := by
  unfold quantify
  split
  · exact .failAt _ _
  split
  · exact .failAt _ _
  · exact .failAt _ _
  · exact greed_keeps.bind fun _ => .keep

/-! ## The tree -/

theorem simple_proceeds (f : Frame) (position : Nat) (s : Symbol) :
    Proceeds whole (Behind whole [s]) (simple f position s) fun _ => Within whole := by
  unfold simple
  split
  · exact (escape_proceeds f _).bind fun _ => .keep
  · exact .behind .keep
  · split
    · exact .behind .keep
    split
    · exact .behind (.get_bind fun _ _ => (skipLine_keeps _).bind fun _ => .keep)
    split
    · exact .behind ((charClass_keeps _ _).bind fun _ => .keep)
    split
    · exact .behind .keep
    refine (quantifier?_proceeds _).bind fun quantifier => ?_
    split
    · exact .keep
    · exact quantify_keeps _ _ _ _
    · exact .keep

theorem tree_keeps (limit : Nat) (f : Frame) (outer : List Frame) :
    Keeps whole (tree limit f outer) := by
  induction limit generalizing f outer with
  | zero => exact .keep
  | succ limit ih =>
      refine .get_bind fun r _ => (peek_proceeds _).bind fun s? => ?_
      split
      · exact .pure fun _ h => h.2
      · exact .failAt _ _
      next s =>
        have hnext : Proceeds whole (fun rest => some s = rest.head? ∧ Within whole rest) next
            fun _ => Behind whole [s] :=
          (next_of_head s []).imp (fun _ h => ⟨h.1.symm, h.2⟩) fun _ _ => id
        split
        · split
          · exact .failAt _ _
          · exact hnext.bind fun _ => .behind (ih _ _)
        split
        · split
          · exact .pure fun _ h => h.2
          · exact hnext.bind fun _ => .behind ((closing_keeps f).bind fun _ => ih _ _)
        refine hnext.bind fun _ => ?_
        split
        · refine .behind ((opening_keeps f _).bind fun result => ?_)
          split
          · exact ih _ _
          · exact ih _ _
          · exact ih _ _
        · exact (simple_proceeds f _ s).bind fun _ => ih _ _

/-! ## The header -/

theorem parenthesis_proceeds :
    Proceeds whole (fun rest => rest.head? = some (.plain '('.toNat) ∧ Within whole rest)
      parenthesis fun item rest =>
        Within whole rest ∧ ∀ on, item = .flags on → GlobalFlags whole on := by
  refine .get_bind fun before hbefore => ?_
  refine .bind (next_of_head (.plain '('.toNat) []) fun _ => ?_
  refine (accept_proceeds _ '?').bind fun question => ?_
  split
  next hquestion =>
    subst hquestion
    refine (next_proceeds _).bind fun s? => ?_
    split
    · exact .fail _ _
    next s =>
      split
      · refine .behind (.get_bind fun _ _ => (comment_keeps _ _).bind fun _ => .pure ?_)
        exact fun _ h => ⟨h, nofun⟩
      refine (inlineFlags_proceeds _ s).bind fun flags? => ?_
      split
      · refine .pure ?_
        rintro rest ⟨hrest, hflags⟩
        refine ⟨hrest, ?_⟩
        rintro _ ⟨⟩
        exact hflags _ rfl
      · exact .bind (.set hbefore.2) fun _ => .pure fun _ h => ⟨h, nofun⟩
  next => exact .bind (.set hbefore.2) fun _ => .pure fun _ h => ⟨h, nofun⟩

theorem preamble_proceeds (verbose : Bool) :
    Proceeds whole (Within whole) (preamble verbose) fun item rest =>
      Within whole rest ∧ ∀ on, item = .flags on → GlobalFlags whole on := by
  have hother : ∀ {item : Preamble}, (∀ on, item ≠ .flags on) →
      Proceeds whole (Within whole) (pure item) fun item rest =>
        Within whole rest ∧ ∀ on, item = .flags on → GlobalFlags whole on :=
    fun hitem => .pure fun _ h => ⟨h, fun on hon => absurd hon (hitem on)⟩
  refine (peek_proceeds _).bind fun s? => ?_
  split
  next c =>
    split
    · exact .forget (next_keeps.bind fun _ => hother nofun)
    split
    · exact .forget (next_keeps.bind fun _ => .get_bind fun _ _ =>
        (skipLine_keeps _).bind fun _ => hother nofun)
    split
    next hparenthesis =>
      rw [beq_iff_eq.mp hparenthesis]
      exact parenthesis_proceeds.imp (fun _ h => ⟨h.1.symm, h.2⟩) fun _ _ => id
    next => exact .forget (hother nofun)
  · exact .forget (hother nofun)

theorem header_proceeds (limit : Nat) (flags : Flags) :
    Proceeds whole (Within whole) (header limit flags) fun final rest =>
      Within whole rest ∧ final.GrownFrom flags whole := by
  induction limit generalizing flags with
  | zero => exact .pure fun _ h => ⟨h, .refl⟩
  | succ limit ih =>
      refine (preamble_proceeds _).bind fun item => ?_
      cases item with
      | flags on =>
          refine .known fun hon => (ih _).imp (fun _ => id) ?_
          rintro final rest ⟨hrest, hfinal⟩
          exact ⟨hrest, hfinal.trans (.turnOnAll (hon on rfl))⟩
      | skipped => exact .known fun _ => ih flags
      | body => exact .known fun _ => .pure fun _ h => ⟨h, .refl⟩

end FirstMatch.Pattern.Reading
