import ParityGrid.Application.Ports.ConnectorRedaction

/-!
# What redaction hides

A text with holes is filled by a secret that shares no character with the rest
of it.  Registered, the secret is replaced before any other pass looks at the
text, so that `redactText` publishes the same text for every secret.  A
fragment is cut and cleaned before that: a hole that the cut divides, or a
character that cleaning replaces, can show.
-/

namespace ParityGrid.Application

open ParityGrid.Foundation

/-- A text with holes. -/
abbrev Holed := List (Option CodePoint)

/-- A valid secret that shares no character with what redaction writes. -/
structure HiddenSecret where
  value : Text
  nonempty : value ≠ []
  bounded : value.length ≤ 256
  unplaced : ∀ c ∈ value, c ∉ redactionPlaceholder
  undotted : point '.' ∉ value

/-- The registry of one secret. -/
def HiddenSecret.registry (secret : HiddenSecret) : SecretMaterial where
  values := [secret.value]
  nonempty _ member := List.mem_singleton.mp member ▸ secret.nonempty
  bounded _ member := List.mem_singleton.mp member ▸ secret.bounded
  distinct := List.nodup_singleton _

/-- A secret shares no character with a text outside its holes. -/
def HiddenSecret.Apart (secret : HiddenSecret) (template : Holed) : Prop :=
  ∀ c, some c ∈ template → c ∉ secret.value

section Texts

variable [PatternRuntime] {secret : HiddenSecret} {template : Holed}

/-- What is published of a text with holes, whatever fills them. -/
def publicText (template : Holed) : Text :=
  redactText (fill redactionPlaceholder template) .empty

omit [PatternRuntime] in
theorem maskValues_registry (secret : HiddenSecret) (t : Text) :
    maskValues secret.registry t =
      replaceAll secret.value redactionPlaceholder t := by
  have one : secret.registry.longestFirst = [secret.value] :=
    sortedBy_singleton _ _
  rw [maskValues, one]
  rfl

theorem redactText_of_masked {t masked : Text} {secrets : SecretMaterial}
    (same : maskValues secrets t = masked) :
    redactText t secrets = redactText masked .empty := by
  have none_ : maskValues .empty masked = masked := rfl
  rw [redactText, redactText, maskShapes, maskShapes, same, none_]

/-- A secret that begins at no character outside the holes is published
nowhere. -/
theorem redactText_fill_of_misses
    (misses : ∀ c rest, some c :: rest <:+ template →
      ¬secret.value <+: c :: fill secret.value rest) :
    redactText (fill secret.value template) secret.registry =
      publicText template := by
  apply redactText_of_masked
  rw [maskValues_registry, replaceAll_fill secret.nonempty misses]

/-- A filled text is published without its secret. -/
theorem redactText_fill (apart : secret.Apart template) :
    redactText (fill secret.value template) secret.registry =
      publicText template :=
  redactText_fill_of_misses fun c _ inside =>
    not_prefix_of_notMem secret.nonempty
      (apart c (inside.subset List.mem_cons_self))

/-- A text that a secret shares no character with is redacted without it. -/
theorem redactText_foreign {t : Text} (foreign : ∀ c ∈ secret.value, c ∉ t) :
    redactText t secret.registry = redactText t .empty := by
  apply redactText_of_masked
  rw [maskValues_registry]
  refine replaceAll_eq_self fun occurs => ?_
  obtain ⟨c, member⟩ := List.exists_mem_of_ne_nil _ secret.nonempty
  exact foreign c member (occurs.subset member)

end Texts

/-! ## Fragments -/

section Fragments

/-- No hole that begins before a position is divided by it. -/
def Uncut (secret : HiddenSecret) (limit : Nat) (template : Holed) : Prop :=
  ∀ left right, template = left ++ none :: right →
    (fill secret.value left).length < limit →
      (fill secret.value left).length + secret.value.length ≤ limit

/-- The part of a text that begins before a position; holes have a length. -/
def keepHoled (length : Nat) : Nat → Holed → Holed
  | _, [] => []
  | 0, _ :: _ => []
  | limit + 1, none :: rest =>
      none :: keepHoled length (limit + 1 - length) rest
  | limit + 1, some c :: rest => some c :: keepHoled length limit rest

variable {secret : HiddenSecret} {template : Holed} {limit : Nat}

/-- A text within the limit is not cut at all. -/
theorem uncut_of_short (short : (fill secret.value template).length ≤ limit) :
    Uncut secret limit template := by
  rintro left right rfl _
  rw [fill_append, fill_hole, List.length_append, List.length_append] at short
  omega

theorem keepHoled_zero (length : Nat) (template : Holed) :
    keepHoled length 0 template = [] := by
  cases template <;> rfl

/-- A cut that divides no hole cuts the text with holes. -/
theorem take_fill (uncut : Uncut secret limit template) :
    (fill secret.value template).take limit =
      fill secret.value
        (keepHoled secret.value.length limit template) := by
  induction template generalizing limit with
  | nil =>
      rw [fill_nil, List.take_nil, keepHoled, fill_nil]
  | cons entry rest ih =>
      cases limit with
      | zero => rw [keepHoled_zero, List.take_zero, fill_nil]
      | succ limit =>
          cases entry with
          | none =>
              have fits : secret.value.length ≤ limit + 1 := by
                have whole := uncut [] rest rfl (Nat.succ_pos _)
                rwa [fill_nil, List.length_nil, Nat.zero_add] at whole
              have later : Uncut secret (limit + 1 - secret.value.length)
                  rest := by
                intro left right form begins
                have whole := uncut (none :: left) right
                  (by rw [form, List.cons_append])
                rw [fill_hole, List.length_append] at whole
                omega
              rw [fill_hole, keepHoled, fill_hole, List.take_append,
                List.take_of_length_le fits, ih later]
          | some c =>
              have later : Uncut secret limit rest := by
                intro left right form begins
                have whole := uncut (some c :: left) right
                  (by rw [form, List.cons_append])
                rw [fill_some, List.length_cons] at whole
                omega
              rw [fill_some, keepHoled, fill_some, List.take_succ_cons,
                ih later]

/-- What `cutFragment` keeps of a text with holes. -/
def keptFragment (secret : HiddenSecret) (template : Holed) : Holed :=
  keepHoled secret.value.length maxFragmentBytes template

/-- The text with holes that `cutFragment` makes. -/
def cutHoled (secret : HiddenSecret) (template : Holed) : Holed :=
  if maxFragmentBytes < (fill secret.value template).length then
    keptFragment secret template ++ (text "...").map some
  else template

/--
A fragment that hides a secret: the cut divides no hole, cleaning replaces
nothing inside a hole, and at no character that it replaces outside the holes
does the cleaned text go on as the secret.
-/
structure FragmentSafe (secret : HiddenSecret) (template : Holed) : Prop where
  uncut : Uncut secret maxFragmentBytes template
  clean : none ∈ cutHoled secret template →
    ∀ c ∈ secret.value, sanitizePoint c = c
  uncompleted : ∀ c rest, some c :: rest <:+ cutHoled secret template →
    sanitizePoint c ≠ c →
      ¬secret.value <+:
        (fill secret.value (some c :: rest)).map sanitizePoint

theorem keepHoled_begins (length limit : Nat) (template : Holed) :
    keepHoled length limit template <+: template := by
  induction template generalizing limit with
  | nil => exact List.prefix_refl _
  | cons entry rest ih =>
      cases limit with
      | zero => exact List.nil_prefix
      | succ limit =>
          cases entry with
          | none => exact List.cons_prefix_cons.mpr ⟨rfl, ih _⟩
          | some c => exact List.cons_prefix_cons.mpr ⟨rfl, ih _⟩

/-- The entries of a cut text are the text's own or of the ellipsis. -/
theorem mem_cutHoled {entry : Option CodePoint}
    (member : entry ∈ cutHoled secret template) :
    entry ∈ template ∨ entry = some (point '.') := by
  rw [cutHoled] at member
  split at member
  · rcases List.mem_append.mp member with kept | dots
    · exact .inl ((keepHoled_begins _ _ template).subset kept)
    · obtain ⟨c, inside, rfl⟩ := List.mem_map.mp dots
      have each : ((text "...").all (· == point '.')) := by decide
      exact .inr (congrArg some (eq_of_beq (List.all_eq_true.mp each c inside)))
  · exact .inl member

/-- The cut of a filled fragment. -/
theorem cutFragment_fill (uncut : Uncut secret maxFragmentBytes template) :
    cutFragment (fill secret.value template) =
      fill secret.value (cutHoled secret template) := by
  rw [cutFragment, cutHoled]
  split
  · rw [fill_append, fill_map_some, take_fill uncut, keptFragment]
  · rfl

/-- Cleaning a filled text cleans the text around its holes. -/
theorem sanitize_fill (filling : Text) (template : Holed) :
    (fill filling template).map sanitizePoint =
      fill (filling.map sanitizePoint)
        (template.map (Option.map sanitizePoint)) := by
  induction template with
  | nil => rfl
  | cons entry rest ih =>
      cases entry with
      | none =>
          rw [fill_hole, List.map_append, ih, List.map_cons, Option.map_none,
            fill_hole]
      | some c =>
          rw [fill_some, List.map_cons, ih, List.map_cons, Option.map_some,
            fill_some]

/-- Without holes the filling does not matter. -/
theorem fill_congr {left right : Text} (same : none ∈ template → left = right) :
    fill left template = fill right template := by
  induction template with
  | nil => rfl
  | cons entry rest ih =>
      have later := ih fun member => same (List.mem_cons_of_mem _ member)
      cases entry with
      | none =>
          rw [fill_hole, fill_hole, later, same List.mem_cons_self]
      | some c => rw [fill_some, fill_some, later]

/-- In a safe fragment the secret begins at no cleaned character. -/
theorem FragmentSafe.misses (safe : FragmentSafe secret template)
    (apart : secret.Apart template) {c : CodePoint} {rest : Holed}
    (inside : some c :: rest <:+ cutHoled secret template) :
    ¬secret.value <+:
      (fill secret.value (some c :: rest)).map sanitizePoint := by
  by_cases same : sanitizePoint c = c
  · rw [fill_some, List.map_cons, same]
    refine not_prefix_of_notMem secret.nonempty fun shared => ?_
    rcases mem_cutHoled (inside.subset List.mem_cons_self) with own | dots
    · exact apart c own shared
    · exact secret.undotted (Option.some.inj dots ▸ shared)
  · exact safe.uncompleted c rest inside same

/-- What a fragment publishes, whatever secret fills its holes. -/
theorem redactPayloadFragment_fill [PatternRuntime]
    (apart : secret.Apart template) (safe : FragmentSafe secret template) :
    redactPayloadFragment (.text (fill secret.value template))
        secret.registry =
      publicText ((cutHoled secret template).map
        (Option.map sanitizePoint)) := by
  have filled (holed : Holed)
      (begins : none ∈ holed → none ∈ cutHoled secret template) :
      (fill secret.value holed).map sanitizePoint =
        fill secret.value (holed.map (Option.map sanitizePoint)) := by
    rw [sanitize_fill]
    apply fill_congr
    intro hole
    obtain ⟨entry, member, form⟩ := List.mem_map.mp hole
    rw [Option.map_eq_none_iff] at form
    subst form
    exact (List.map_congr_left (safe.clean (begins member))).trans
      (List.map_id' _)
  have misses : ∀ c rest, some c :: rest <:+
      (cutHoled secret template).map (Option.map sanitizePoint) →
        ¬secret.value <+: c :: fill secret.value rest := by
    rintro c rest ⟨left, form⟩ begins
    obtain ⟨front, back, whole, _, same⟩ := List.map_eq_append_iff.mp form.symm
    obtain ⟨entry, later, rfl, head, rfl⟩ := List.map_eq_cons_iff.mp same
    obtain ⟨source, rfl, rfl⟩ := Option.map_eq_some_iff.mp head
    have inside : some source :: later <:+ cutHoled secret template :=
      ⟨front, whole.symm⟩
    refine safe.misses apart inside ?_
    rw [fill_some, List.map_cons, filled later fun member =>
      inside.subset (List.mem_cons_of_mem _ member)]
    exact begins
  rw [redactPayloadFragment, Fragment.decoded, cutFragment_fill safe.uncut,
    filled _ id]
  exact redactText_fill_of_misses misses

/-- The cut looks at the length of a secret only. -/
theorem cutHoled_congr {other : HiddenSecret}
    (same : secret.value.length = other.value.length) (template : Holed) :
    cutHoled secret template = cutHoled other template := by
  rw [cutHoled, cutHoled, keptFragment, keptFragment, same,
    length_fill_eq same]

end Fragments

/-! ## What redaction writes -/

section Written

variable {p : CodePoint → Prop}

theorem of_mem_maskTurn {marker t next : Text} {start later : Nat}
    (placed : ∀ c ∈ redactionPlaceholder, p c) (holds : ∀ c ∈ t, p c)
    (turn : maskTurn marker t start = some (next, later)) :
    ∀ c ∈ next, p c := by
  obtain ⟨position, _, same⟩ := Option.map_eq_some_iff.mp turn
  rcases Prod.mk.inj same with ⟨rfl, _⟩
  intro c member
  split at member
  · exact holds c member
  · rcases List.mem_append.mp member with front | rest
    · rcases List.mem_append.mp front with front | inside
      · exact holds c (List.mem_of_mem_take front)
      · exact placed c inside
    · exact holds c (List.mem_of_mem_drop rest)

/-- What every turn keeps, the marker loops keep. -/
theorem maskMarkers_keeps {P : Text → Prop}
    (keeps : ∀ marker t start next later, P t →
      maskTurn marker t start = some (next, later) → P next)
    {t : Text} (holds : P t) : P (maskMarkers t) := by
  have turns (marker : Text) : ∀ fuel t start masked, P t →
      maskTurns marker fuel t start = some masked → P masked := by
    intro fuel
    induction fuel with
    | zero => exact fun _ _ _ _ returned => by cases returned
    | succ fuel ih =>
        intro t start masked holds returned
        cases turn : maskTurn marker t start with
        | none =>
            rw [maskTurns, turn] at returned
            exact Option.some.inj returned ▸ holds
        | some state =>
            rw [maskTurns, turn] at returned
            exact ih _ _ _ (keeps _ _ _ _ _ holds turn) returned
  have each : ∀ (markers : List Text) (t : Text), P t →
      P (markers.foldl maskMarker t) := by
    intro markers
    induction markers with
    | nil => exact fun t holds => holds
    | cons marker rest ih =>
        intro t holds
        refine ih _ ?_
        rw [maskMarker]
        cases returned : maskTurns marker (maskFuel t) t 0 with
        | none => exact holds
        | some masked => exact turns marker _ t 0 masked holds returned
  exact each secretMarkers t holds

theorem of_mem_maskMarkers {t : Text}
    (placed : ∀ c ∈ redactionPlaceholder, p c) (holds : ∀ c ∈ t, p c) :
    ∀ c ∈ maskMarkers t, p c :=
  maskMarkers_keeps
    (fun _ _ _ _ _ holds turn => of_mem_maskTurn placed holds turn) holds

theorem of_mem_cutText {limit : Nat} {t : Text} (dot : p (point '.'))
    (holds : ∀ c ∈ t, p c) : ∀ c ∈ cutText limit t, p c := by
  intro c member
  rw [cutText] at member
  split at member
  · rcases List.mem_append.mp member with front | dots
    · exact holds c (List.mem_of_mem_take front)
    · have each : ((text "...").all (· == point '.')) := by decide
      exact eq_of_beq (List.all_eq_true.mp each c dots) ▸ dot
  · exact holds c member

theorem matchKeyword_begins {keyword ahead found : Text}
    (matched : matchKeyword keyword ahead = some found) : found <+: ahead := by
  rw [matchKeyword] at matched
  split at matched
  · exact Option.some.inj matched ▸ List.take_prefix _ _
  · cases matched

variable [PatternRuntime]

theorem of_mem_credentialUrl {before : Option CodePoint}
    {ahead replacement : Text} {consumed : Nat}
    (placed : ∀ c ∈ redactionPlaceholder, p c) (holds : ∀ c ∈ ahead, p c)
    (found : credentialUrl before ahead = some (replacement, consumed)) :
    ∀ c ∈ replacement, p c := by
  simp only [credentialUrl, Option.bind_eq_bind, Option.bind_eq_some_iff,
    Option.guard_eq_some', Option.some.injEq, Prod.mk.injEq] at found
  obtain ⟨scheme, chosen, _, _, _, sign, _, _, rfl, _⟩ := found
  have opening : scheme <+: ahead := List.isPrefixOf_iff_prefix.mp
    (@List.find?_some _ (fun scheme : Text => scheme.isPrefixOf ahead) _ _
      chosen)
  have at_ : point '@' ∈ ahead :=
    List.mem_of_mem_drop (List.mem_of_mem_drop (List.mem_of_mem_head? sign))
  intro c member
  rcases List.mem_append.mp member with front | rest
  · rcases List.mem_append.mp front with front | inside
    · exact holds c (opening.subset front)
    · exact placed c inside
  · rcases List.mem_cons.mp rest with rfl | rest
    · exact holds _ at_
    · exact holds c (List.mem_of_mem_drop (List.mem_of_mem_drop
        ((List.takeWhile_prefix _).subset rest)))

theorem of_mem_bearerToken {before : Option CodePoint}
    {ahead replacement : Text} {consumed : Nat}
    (placed : ∀ c ∈ redactionPlaceholder, p c) (holds : ∀ c ∈ ahead, p c)
    (found : bearerToken before ahead = some (replacement, consumed)) :
    ∀ c ∈ replacement, p c := by
  simp only [bearerToken, Option.bind_eq_bind, Option.bind_eq_some_iff,
    Option.guard_eq_some', Option.some.injEq, Prod.mk.injEq] at found
  obtain ⟨keyword, matched, _, _, _, _, rfl, _⟩ := found
  intro c member
  rcases List.mem_append.mp member with front | inside
  · rcases List.mem_append.mp front with front | space
    · exact holds c ((matchKeyword_begins matched).subset front)
    · exact holds c (List.mem_of_mem_drop
        ((List.takeWhile_prefix _).subset space))
  · exact placed c inside

/-- An assignment keeps its keyword. -/
theorem assignment_writes {before : Option CodePoint}
    {ahead replacement : Text} {consumed : Nat}
    (found : assignment before ahead = some (replacement, consumed)) :
    ∃ keyword, keyword <+: ahead ∧
      replacement = keyword ++ point '=' :: redactionPlaceholder := by
  simp only [assignment, Option.bind_eq_bind, Option.bind_eq_some_iff,
    Option.guard_eq_some', Option.some.injEq, Prod.mk.injEq] at found
  obtain ⟨_, _, keyword, chosen, _, _, _, _, _, _, rfl, _⟩ := found
  obtain ⟨name, _, matched⟩ := List.exists_of_findSome?_eq_some chosen
  exact ⟨keyword, matchKeyword_begins matched, rfl⟩

theorem of_mem_assignment {before : Option CodePoint}
    {ahead replacement : Text} {consumed : Nat}
    (placed : ∀ c ∈ redactionPlaceholder, p c) (equals : p (point '='))
    (holds : ∀ c ∈ ahead, p c)
    (found : assignment before ahead = some (replacement, consumed)) :
    ∀ c ∈ replacement, p c := by
  obtain ⟨keyword, begins, rfl⟩ := assignment_writes found
  intro c member
  rcases List.mem_append.mp member with front | rest
  · exact holds c (begins.subset front)
  · rcases List.mem_cons.mp rest with rfl | inside
    · exact equals
    · exact placed c inside

/-- What redaction publishes comes from the text, or redaction writes it. -/
theorem of_mem_redactText {t : Text}
    (placed : ∀ c ∈ redactionPlaceholder, p c) (dot : p (point '.'))
    (equals : p (point '=')) (holds : ∀ c ∈ t, p c) :
    ∀ c ∈ redactText t .empty, p c := by
  have none_ : maskValues .empty t = t := rfl
  rw [redactText, maskShapes, none_, maskPatterns, substitute, substitute,
    substitute]
  refine of_mem_cutText dot (of_mem_maskMarkers placed ?_)
  refine all_substituteFrom (fun _ _ _ _ holds found =>
    of_mem_assignment placed equals holds found) ?_ _ _
  refine all_substituteFrom (fun _ _ _ _ holds found =>
    of_mem_bearerToken placed holds found) ?_ _ _
  exact all_substituteFrom (fun _ _ _ _ holds found =>
    of_mem_credentialUrl placed holds found) holds _ _

variable {secret : HiddenSecret} {template : Holed}

/-- Of a secret apart from a text only an equals sign can be published. -/
theorem of_mem_publicText (apart : secret.Apart template) {c : CodePoint}
    (published : c ∈ publicText template) (shared : c ∈ secret.value) :
    c = point '=' := by
  have each := @of_mem_redactText
    (fun c => c ∈ secret.value → c = point '=') _
    (fill redactionPlaceholder template)
    (fun c placed shared => absurd placed (secret.unplaced c shared))
    (fun shared => absurd shared secret.undotted)
    (fun _ => rfl)
    (fun c member shared => by
      rcases mem_fill member with placed | inside
      · exact absurd placed (secret.unplaced c shared)
      · exact absurd shared (apart c inside))
  exact each c published shared

/-! ### Equals signs -/

/-- One character is no equals sign, or the next is none. -/
def Unequal (a b : CodePoint) : Prop :=
  ¬(a = point '=' ∧ b = point '=')

/-- No two equals signs stand side by side. -/
abbrev SingleEquals (t : Text) : Prop :=
  t.IsChain Unequal

omit [PatternRuntime] in
theorem singleEquals_of_notMem {t : Text} (free : point '=' ∉ t) :
    SingleEquals t := by
  induction t with
  | nil => exact .nil
  | cons a rest ih =>
      refine List.isChain_cons.mpr ⟨fun b _ both => ?_, ih fun member =>
        free (List.mem_cons_of_mem a member)⟩
      exact free (both.1 ▸ List.mem_cons_self)

omit [PatternRuntime] in
theorem placeholder_unequal : point '=' ∉ redactionPlaceholder := by decide

omit [PatternRuntime] in
/-- What is written around the placeholder touches none of its ends. -/
theorem SingleEquals.placed {front back : Text} (before : SingleEquals front)
    (after : SingleEquals back) :
    SingleEquals (front ++ redactionPlaceholder ++ back) := by
  have opens : redactionPlaceholder.head? = some (point '<') := by decide
  have ends : (front ++ redactionPlaceholder).getLast? = some (point '>') := by
    rw [List.getLast?_append]
    rfl
  refine List.isChain_append.mpr ⟨List.isChain_append.mpr ⟨before,
    singleEquals_of_notMem placeholder_unequal, ?_⟩, after, ?_⟩
  · rintro a _ b first ⟨_, rfl⟩
    rw [opens] at first
    exact absurd first (by decide)
  · rintro a last b _ ⟨rfl, _⟩
    rw [ends] at last
    exact absurd last (by decide)

/-- The assignment pass writes its equals signs apart. -/
theorem singleEquals_assignment {t : Text} (free : point '=' ∉ t) :
    SingleEquals (substitute assignment t) := by
  have each : ∀ (before : Option CodePoint) (skip : Nat),
      SingleEquals (substituteFrom assignment before skip t) := by
    induction t with
    | nil => exact fun _ _ => .nil
    | cons a rest ih =>
        have later := ih fun member => free (List.mem_cons_of_mem a member)
        intro before skip
        cases skip with
        | succ skip => exact later (some a) skip
        | zero =>
            cases found : assignment before (a :: rest) with
            | none =>
                rw [substituteFrom_none found]
                refine List.isChain_cons.mpr ⟨fun b _ both => ?_, later _ _⟩
                exact free (both.1 ▸ List.mem_cons_self)
            | some answer =>
                obtain ⟨replacement, consumed⟩ := answer
                rw [substituteFrom_some found]
                obtain ⟨keyword, begins, rfl⟩ := assignment_writes found
                have front : SingleEquals (keyword ++ [point '=']) := by
                  have free : point '=' ∉ keyword := fun member =>
                    free (begins.subset member)
                  refine List.isChain_append.mpr
                    ⟨singleEquals_of_notMem free, List.isChain_singleton _, ?_⟩
                  rintro a last b _ ⟨rfl, _⟩
                  exact free (List.mem_of_mem_getLast? last)
                have placed := front.placed (later (some a) (consumed - 1))
                rwa [List.append_assoc keyword] at placed
  exact each none 0

omit [PatternRuntime] in
theorem SingleEquals.maskTurn {marker t next : Text} {start later : Nat}
    (single : SingleEquals t)
    (turn : maskTurn marker t start = some (next, later)) :
    SingleEquals next := by
  obtain ⟨position, _, same⟩ := Option.map_eq_some_iff.mp turn
  rcases Prod.mk.inj same with ⟨rfl, _⟩
  split
  · exact single
  · exact SingleEquals.placed (single.take _) (single.drop _)

omit [PatternRuntime] in
theorem SingleEquals.cutText {limit : Nat} {t : Text}
    (single : SingleEquals t) : SingleEquals (cutText limit t) := by
  rw [Application.cutText]
  split
  · refine List.isChain_append.mpr
      ⟨single.take _, singleEquals_of_notMem (by decide), ?_⟩
    rintro a _ b first ⟨_, rfl⟩
    rw [show (text "...").head? = some (point '.') by decide] at first
    exact absurd first (by decide)
  · exact single

/-- The text that the assignment pass gets of a text with holes, when the
placeholder fills them. -/
def unassignedText (template : Holed) : Text :=
  substitute bearerToken
    (substitute credentialUrl (fill redactionPlaceholder template))

/-- The assignment pattern matches nowhere in it. -/
def Unassigned (template : Holed) : Prop :=
  ∀ left ahead, unassignedText template = left ++ ahead →
    assignment left.getLast? ahead = none

theorem publicText_eq (template : Holed) :
    publicText template = cutText maxRedactedTextLength
      (maskMarkers (substitute assignment (unassignedText template))) := by
  have none_ (t : Text) : maskValues .empty t = t := rfl
  rw [publicText, redactText, maskShapes, none_]
  rfl

theorem of_mem_unassignedText
    (placed : ∀ c ∈ redactionPlaceholder, p c)
    (holds : ∀ c ∈ fill redactionPlaceholder template, p c) :
    ∀ c ∈ unassignedText template, p c := by
  refine all_substituteFrom (fun _ _ _ _ holds found =>
    of_mem_bearerToken placed holds found) ?_ _ _
  exact all_substituteFrom (fun _ _ _ _ holds found =>
    of_mem_credentialUrl placed holds found) holds _ _

/-- A published text is published again as it would be without the secret. -/
theorem redactText_publicText (apart : secret.Apart template)
    (unassigned : secret.value = [point '='] → Unassigned template) :
    redactText (publicText template) secret.registry =
      redactText (publicText template) .empty := by
  apply redactText_of_masked
  rw [maskValues_registry]
  refine replaceAll_eq_self fun occurs => ?_
  have equals : ∀ c ∈ secret.value, c = point '=' := fun c shared =>
    of_mem_publicText apart (occurs.subset shared) shared
  have shared : point '=' ∈ secret.value := by
    obtain ⟨c, member⟩ := List.exists_mem_of_ne_nil _ secret.nonempty
    exact equals c member ▸ member
  have unwritten : ∀ c ∈ fill redactionPlaceholder template,
      c ≠ point '=' := by
    rintro c member rfl
    rcases mem_fill member with placed | inside
    · exact placeholder_unequal placed
    · exact apart _ inside shared
  have dotted : point '.' ≠ point '=' := by decide
  have placed : ∀ c ∈ redactionPlaceholder, c ≠ point '=' := fun c member =>
    fun same => placeholder_unequal (same ▸ member)
  have free : point '=' ∉ unassignedText template := fun member =>
    of_mem_unassignedText placed unwritten _ member rfl
  have single : SingleEquals (publicText template) := by
    rw [publicText_eq]
    exact (maskMarkers_keeps (fun _ _ _ _ _ single turn =>
      single.maskTurn turn) (singleEquals_assignment free)).cutText
  have alone : secret.value = [point '='] := by
    have all := List.eq_replicate_of_mem equals
    have length := List.length_pos_of_ne_nil secret.nonempty
    rcases Nat.lt_or_ge 1 secret.value.length with two | one
    · obtain ⟨n, form⟩ := Nat.exists_eq_add_of_lt two
      rw [form, Nat.add_comm 1 n, List.replicate_succ,
        List.replicate_succ] at all
      have chain := single.infix occurs
      rw [all, List.isChain_cons_cons] at chain
      exact absurd ⟨rfl, rfl⟩ chain.1
    · rw [show secret.value.length = 1 by omega] at all
      exact all
  have published := occurs.subset shared
  rw [publicText_eq, substitute_eq_self (unassigned alone)] at published
  have unmarked : ∀ c ∈ maskMarkers (unassignedText template), c ≠ point '=' :=
    of_mem_maskMarkers placed fun c member same => free (same ▸ member)
  exact of_mem_cutText dotted unmarked _ published rfl

end Written

/-! ## Details with holes -/

section Details

variable {τ υ : Type}

mutual

/-- A structured value over other texts. -/
def Detail.map (f : τ → υ) : Detail τ → Detail υ
  | .none => .none
  | .bool value => .bool value
  | .int value => .int value
  | .text value => .text (f value)
  | .mapping entries => .mapping (mapEntries f entries)
  | .sequence items => .sequence (mapItems f items)
  | .other repr => .other (f repr)

def mapEntries (f : τ → υ) : List (τ × Detail τ) → List (υ × Detail υ)
  | [] => []
  | (key, value) :: rest => (f key, value.map f) :: mapEntries f rest

def mapItems (f : τ → υ) : List (Detail τ) → List (Detail υ)
  | [] => []
  | item :: rest => item.map f :: mapItems f rest

end

mutual

/-- Some property of every text of a structured value. -/
def Detail.Each (p : τ → Prop) : Detail τ → Prop
  | .none => True
  | .bool _ => True
  | .int _ => True
  | .text value => p value
  | .mapping entries => EachEntry p entries
  | .sequence items => EachItem p items
  | .other repr => p repr

def EachEntry (p : τ → Prop) : List (τ × Detail τ) → Prop
  | [] => True
  | (key, value) :: rest => p key ∧ value.Each p ∧ EachEntry p rest

def EachItem (p : τ → Prop) : List (Detail τ) → Prop
  | [] => True
  | item :: rest => item.Each p ∧ EachItem p rest

end

variable [PatternRuntime]

/-- Whether a key with holes names a secret once it is filled. -/
def filledName (secret : HiddenSecret) (key : Holed) : Bool :=
  isSecretName (fill secret.value key)

mutual

/-- Two secrets agree on which keys name a secret. -/
def Detail.NamesAgree (one other : HiddenSecret) : Detail Holed → Prop
  | .none => True
  | .bool _ => True
  | .int _ => True
  | .text _ => True
  | .mapping entries => EntryNamesAgree one other entries
  | .sequence items => ItemNamesAgree one other items
  | .other _ => True

def EntryNamesAgree (one other : HiddenSecret) :
    List (Holed × Detail Holed) → Prop
  | [] => True
  | (key, value) :: rest =>
      filledName one key = filledName other key ∧
        (filledName one key = false → value.NamesAgree one other) ∧
        EntryNamesAgree one other rest

def ItemNamesAgree (one other : HiddenSecret) : List (Detail Holed) → Prop
  | [] => True
  | item :: rest => item.NamesAgree one other ∧ ItemNamesAgree one other rest

end

variable {one other : HiddenSecret}

/-- Both secrets are apart from a text with holes. -/
def BothApart (one other : HiddenSecret) (template : Holed) : Prop :=
  one.Apart template ∧ other.Apart template

theorem redactText_hides {template : Holed}
    (apart : BothApart one other template) :
    redactText (fill one.value template) one.registry =
      redactText (fill other.value template) other.registry :=
  (redactText_fill apart.1).trans (redactText_fill apart.2).symm

mutual

/-- A redacted value with holes is the same for both secrets. -/
theorem redactValue_hides : (value : Detail Holed) →
    value.Each (BothApart one other) → value.NamesAgree one other →
    redactValue one.registry (value.map (fill one.value)) =
      redactValue other.registry (value.map (fill other.value))
  | .none, _, _ => rfl
  | .bool _, _, _ => rfl
  | .int _, _, _ => rfl
  | .text _, apart, _ => congrArg Detail.text (redactText_hides apart)
  | .mapping entries, apart, agree =>
      congrArg (fun entries => Detail.mapping (dictOf entries))
        (redactEntries_hides entries apart agree)
  | .sequence items, apart, agree =>
      congrArg Detail.sequence (redactItems_hides items apart agree)
  | .other _, apart, _ => congrArg Detail.text (redactText_hides apart)

theorem redactEntries_hides : (entries : List (Holed × Detail Holed)) →
    EachEntry (BothApart one other) entries →
    EntryNamesAgree one other entries →
    redactEntries one.registry (mapEntries (fill one.value) entries) =
      redactEntries other.registry (mapEntries (fill other.value) entries)
  | [], _, _ => rfl
  | (key, value) :: rest, ⟨keyApart, apart, others⟩, ⟨named, agree, later⟩ => by
      have names : isSecretName (fill one.value key) =
          isSecretName (fill other.value key) := named
      rw [mapEntries, mapEntries, redactEntries, redactEntries,
        redactText_hides keyApart, redactEntries_hides rest others later,
        ← names]
      cases secretName : isSecretName (fill one.value key) with
      | true => rfl
      | false =>
          rw [if_neg Bool.false_ne_true, if_neg Bool.false_ne_true,
            redactValue_hides value apart (agree secretName)]

theorem redactItems_hides : (items : List (Detail Holed)) →
    EachItem (BothApart one other) items → ItemNamesAgree one other items →
    redactItems one.registry (mapItems (fill one.value) items) =
      redactItems other.registry (mapItems (fill other.value) items)
  | [], _, _ => rfl
  | item :: rest, ⟨apart, others⟩, ⟨agree, later⟩ => by
      rw [mapItems, mapItems, redactItems, redactItems,
        redactValue_hides item apart agree,
        redactItems_hides rest others later]

end

/-- The second redaction of a text detail finds nothing to replace: a secret
that is one equals sign meets no assignment. -/
def RenderSafe (secret : HiddenSecret) (entry : Holed × Detail Holed) : Prop :=
  match entry.2 with
  | .text template | .other template =>
      filledName secret entry.1 = false → secret.value = [point '='] →
        Unassigned template
  | _ => True

/-- A text that the first redaction made is redacted again without a secret. -/
theorem redactText_twice {secret : HiddenSecret} {p : Holed → Prop}
    (implies : ∀ template, p template → secret.Apart template)
    {entries : List (Holed × Detail Holed)} (apart : EachEntry p entries)
    (safe : ∀ entry ∈ entries, RenderSafe secret entry)
    {key shown : Text} (rendered : (key, .text shown) ∈
      redactEntries secret.registry
        (mapEntries (fill secret.value) entries)) :
    redactText shown secret.registry = redactText shown .empty := by
  induction entries with
  | nil => exact absurd rendered List.not_mem_nil
  | cons entry rest ih =>
      obtain ⟨name, value⟩ := entry
      rcases apart with ⟨_, valueApart, others⟩
      rcases List.forall_mem_cons.mp safe with ⟨here, later⟩
      rw [mapEntries, redactEntries] at rendered
      rcases List.mem_cons.mp rendered with same | rendered
      · have shownAs := (Prod.mk.inj same).2
        cases secretName : isSecretName (fill secret.value name) with
        | true =>
            rw [secretName, if_pos rfl] at shownAs
            cases shownAs
            exact redactText_foreign secret.unplaced
        | false =>
            rw [secretName, if_neg Bool.false_ne_true] at shownAs
            have published : ∀ template : Holed, secret.Apart template →
                (secret.value = [point '='] → Unassigned template) →
                shown = redactText (fill secret.value template)
                  secret.registry →
                redactText shown secret.registry = redactText shown .empty := by
              intro template apart unassigned form
              rw [form, redactText_fill apart]
              exact redactText_publicText apart unassigned
            cases value with
            | text template =>
                exact published template (implies _ valueApart) (here secretName)
                  (Detail.text.inj shownAs)
            | other template =>
                exact published template (implies _ valueApart) (here secretName)
                  (Detail.text.inj shownAs)
            | none => cases shownAs
            | bool value => cases shownAs
            | int value => cases shownAs
            | mapping entries => cases shownAs
            | sequence items => cases shownAs
      · exact ih others later rendered

/-- One rendered entry is the same for two secrets that its text is free of. -/
theorem renderDetail_congr {entry : Text × Detail Text}
    {secrets others : SecretMaterial}
    (same : ∀ shown, entry.2 = .text shown →
      redactText shown secrets = redactText shown others) :
    renderDetail secrets entry = renderDetail others entry := by
  obtain ⟨key, value⟩ := entry
  cases value with
  | text shown =>
      exact congrArg (fun redacted => Except.ok (key ++ point '=' :: redacted))
        (same shown rfl)
  | none => rfl
  | bool value => rfl
  | int value => rfl
  | mapping entries => rfl
  | sequence items => rfl
  | other repr => rfl

/-- The rendered details are the same for both secrets. -/
theorem renderDetails_hides {entries : List (Holed × Detail Holed)}
    (apart : EachEntry (BothApart one other) entries)
    (agree : EntryNamesAgree one other entries)
    (safeOne : ∀ entry ∈ entries, RenderSafe one entry)
    (safeOther : ∀ entry ∈ entries, RenderSafe other entry) :
    renderDetails one.registry (mapEntries (fill one.value) entries) =
      renderDetails other.registry (mapEntries (fill other.value) entries) := by
  have same := redactEntries_hides entries apart agree
  rw [renderDetails, renderDetails, ← same]
  refine mapM_congr_left fun entry member => ?_
  have stored := of_mem_dictOf (mem_sortedBy.mp member)
  refine renderDetail_congr fun shown form => ?_
  have rendered : (entry.1, Detail.text shown) ∈ redactEntries one.registry
      (mapEntries (fill one.value) entries) := form ▸ stored
  rw [redactText_twice (fun _ both => both.1) apart safeOne rendered]
  rw [same] at rendered
  rw [redactText_twice (fun _ both => both.2) apart safeOther rendered]

/-- The arguments of `build_public_detail`, with holes. -/
structure PublicTemplate where
  summary : Holed
  fragment : Option Holed
  details : Option (List (Holed × Detail Holed))

/-- `build_public_detail` of the filled arguments. -/
def PublicTemplate.build (template : PublicTemplate) (secret : HiddenSecret) :
    Except PythonError Text :=
  buildPublicDetail (fill secret.value template.summary)
    (template.fragment.map fun fragment => .text (fill secret.value fragment))
    (template.details.map (mapEntries (fill secret.value))) secret.registry

/-- Some property of every text of the arguments. -/
def PublicTemplate.Each (p : Holed → Prop) (template : PublicTemplate) : Prop :=
  p template.summary ∧ (∀ fragment ∈ template.fragment, p fragment) ∧
    ∀ details ∈ template.details, EachEntry p details

/--
A public detail that hides two secrets: its fragment does, both secrets agree
on the keys that name a secret, and redaction writes no equals sign that is a
secret into a text detail that is redacted a second time.
-/
structure DetailSafe (one other : HiddenSecret) (template : PublicTemplate) :
    Prop where
  fragment : ∀ fragment ∈ template.fragment,
    FragmentSafe one fragment ∧ FragmentSafe other fragment
  names : ∀ details ∈ template.details, EntryNamesAgree one other details
  rendered : ∀ details ∈ template.details, ∀ entry ∈ details,
    RenderSafe one entry ∧ RenderSafe other entry

theorem redactPayloadFragment_hides {fragment : Holed}
    (length : one.value.length = other.value.length)
    (apart : BothApart one other fragment) (safeOne : FragmentSafe one fragment)
    (safeOther : FragmentSafe other fragment) :
    redactPayloadFragment (.text (fill one.value fragment)) one.registry =
      redactPayloadFragment (.text (fill other.value fragment))
        other.registry := by
  rw [redactPayloadFragment_fill apart.1 safeOne,
    redactPayloadFragment_fill apart.2 safeOther, cutHoled_congr length]

theorem buildPublicDetail_hides {template : PublicTemplate}
    (length : one.value.length = other.value.length)
    (apart : template.Each (BothApart one other))
    (safe : DetailSafe one other template) :
    template.build one = template.build other := by
  obtain ⟨summary, fragment, details⟩ := template
  rcases apart with ⟨summaryApart, fragmentApart, detailsApart⟩
  have whole : (fill one.value summary).isEmpty =
      (fill other.value summary).isEmpty := by
    rw [Bool.eq_iff_iff, List.isEmpty_iff_length_eq_zero,
      List.isEmpty_iff_length_eq_zero, length_fill_eq length]
  have quoted : ((fragment.map fun fragment =>
        Fragment.text (fill one.value fragment)).toList.map fun fragment =>
          text "fragment=" ++ redactPayloadFragment fragment one.registry) =
      ((fragment.map fun fragment =>
        Fragment.text (fill other.value fragment)).toList.map fun fragment =>
          text "fragment=" ++
            redactPayloadFragment fragment other.registry) := by
    cases fragment with
    | none => simp only [Option.map_none, Option.toList_none, List.map_nil]
    | some fragment =>
        have here : FragmentSafe one fragment ∧ FragmentSafe other fragment :=
          safe.fragment fragment rfl
        have fragmentApart : BothApart one other fragment :=
          fragmentApart fragment rfl
        have same :=
          redactPayloadFragment_hides length fragmentApart here.1 here.2
        simp only [Option.map_some, Option.toList_some, List.map_cons,
          List.map_nil, same]
  rw [PublicTemplate.build, PublicTemplate.build, buildPublicDetail,
    buildPublicDetail, whole, quoted, redactText_hides summaryApart]
  cases details with
  | none => rfl
  | some details =>
      have apart : EachEntry (BothApart one other) details :=
        detailsApart details rfl
      have names : EntryNamesAgree one other details := safe.names details rfl
      have rendered : ∀ entry ∈ details,
          RenderSafe one entry ∧ RenderSafe other entry :=
        safe.rendered details rfl
      have same := renderDetails_hides apart names
        (fun entry member => (rendered entry member).1)
        (fun entry member => (rendered entry member).2)
      rw [Option.map_some, Option.map_some]
      simp only [same]

end Details

/-! ## Samples -/

theorem apart_of_all {secret : HiddenSecret} {template : Holed}
    (checked : (template.all fun entry =>
      entry.all fun c => !secret.value.contains c)) :
    secret.Apart template := by
  intro c inside shared
  have free := List.all_eq_true.mp checked _ inside
  rw [Option.all_some, List.contains_iff_mem.mpr shared] at free
  cases free

/-- A secret of one letter, repeated. -/
def repeatedSecret (letter : CodePoint) (count : Nat) (some_ : 0 < count)
    (few : count ≤ 256) (unplaced : letter ∉ redactionPlaceholder)
    (undotted : point '.' ≠ letter) : HiddenSecret where
  value := List.replicate count letter
  nonempty := List.ne_nil_of_length_pos (by rwa [List.length_replicate])
  bounded := by rwa [List.length_replicate]
  unplaced c member := List.eq_of_mem_replicate member ▸ unplaced
  undotted member := undotted (List.eq_of_mem_replicate member)

def sampleSecret (letter : CodePoint)
    (unplaced : letter ∉ redactionPlaceholder)
    (undotted : point '.' ≠ letter) : HiddenSecret :=
  repeatedSecret letter 20 (by decide) (by decide) unplaced undotted

def sampleOne : HiddenSecret :=
  sampleSecret (point 'k') (by decide +kernel) (by decide +kernel)

def sampleOther : HiddenSecret :=
  sampleSecret (point 'm') (by decide +kernel) (by decide +kernel)

/-- A short text with a hole. -/
def sampleHoled : Holed := [some (point 'b'), none]

def sampleTemplate : PublicTemplate where
  summary := sampleHoled
  fragment := some sampleHoled
  details := some [([some (point 'n')], .text sampleHoled)]

theorem sampleHoled_safe {secret : HiddenSecret}
    (short : (fill secret.value sampleHoled).length ≤ maxFragmentBytes)
    (clean : (secret.value.all fun c => sanitizePoint c == c)) :
    FragmentSafe secret sampleHoled where
  uncut := uncut_of_short short
  clean _ c member := eq_of_beq (List.all_eq_true.mp clean c member)
  uncompleted c rest inside replaced := by
    have plain : (sampleHoled.all fun entry =>
        entry.all fun d => sanitizePoint d == d) := by decide
    rcases mem_cutHoled (inside.subset List.mem_cons_self) with own | dots
    · exact absurd (eq_of_beq (List.all_eq_true.mp plain _ own)) replaced
    · have dot : sanitizePoint (point '.') = point '.' := by decide
      rw [Option.some.inj dots] at replaced
      exact absurd dot replaced

/-! ## The two runs -/

/--
Redaction publishes the same for two registered secrets of one length that are
apart from the rest: always as a text, as a fragment when the cut and the
cleaning leave the holes alone, and as a public detail when its parts do.
-/
theorem redaction_hides [PatternRuntime] {one other : HiddenSecret}
    (length : one.value.length = other.value.length)
    (t : Holed) (apart : BothApart one other t) (template : PublicTemplate)
    (allApart : template.Each (BothApart one other)) :
    redactText (fill one.value t) one.registry =
        redactText (fill other.value t) other.registry ∧
      (FragmentSafe one t → FragmentSafe other t →
        redactPayloadFragment (.text (fill one.value t)) one.registry =
          redactPayloadFragment (.text (fill other.value t))
            other.registry) ∧
      (DetailSafe one other template →
        template.build one = template.build other) :=
  ⟨redactText_hides apart,
    redactPayloadFragment_hides length apart,
    buildPublicDetail_hides length allApart⟩

theorem redaction_hides_sample :
    letI := asciiPatternRuntime
    redactText (fill sampleOne.value sampleHoled) sampleOne.registry =
        redactText (fill sampleOther.value sampleHoled)
          sampleOther.registry ∧
      redactPayloadFragment (.text (fill sampleOne.value sampleHoled))
          sampleOne.registry =
        redactPayloadFragment (.text (fill sampleOther.value sampleHoled))
          sampleOther.registry ∧
      sampleTemplate.build sampleOne = sampleTemplate.build sampleOther := by
  let _ := asciiPatternRuntime
  have apart : BothApart sampleOne sampleOther sampleHoled :=
    ⟨apart_of_all (by decide), apart_of_all (by decide)⟩
  have keyApart : BothApart sampleOne sampleOther [some (point 'n')] :=
    ⟨apart_of_all (by decide), apart_of_all (by decide)⟩
  have safeOne : FragmentSafe sampleOne sampleHoled := sampleHoled_safe
    (by decide) (by decide)
  have safeOther : FragmentSafe sampleOther sampleHoled := sampleHoled_safe
    (by decide) (by decide)
  have hides := @redaction_hides _ sampleOne sampleOther rfl sampleHoled apart
    sampleTemplate
    ⟨apart, by rintro _ ⟨⟩; exact apart,
      by rintro _ ⟨⟩; exact ⟨keyApart, apart, trivial⟩⟩
  refine ⟨hides.1, hides.2.1 safeOne safeOther, hides.2.2 ⟨?_, ?_, ?_⟩⟩
  · rintro _ ⟨⟩
    exact ⟨safeOne, safeOther⟩
  · rintro _ ⟨⟩
    exact ⟨by decide, fun _ => trivial, trivial⟩
  · rintro _ ⟨⟩ entry member
    rw [List.mem_singleton.mp member]
    exact ⟨fun _ same => absurd same (by decide),
      fun _ same => absurd same (by decide)⟩

/-- A hole that begins before the cut and ends behind it. -/
def dividedTemplate : Holed :=
  List.replicate 120 (some (point 'b')) ++ [none]

/-- The cut leaves a part of the secret that redaction does not find. -/
theorem redactPayloadFragment_reveals :
    letI := asciiPatternRuntime
    ¬∀ one other : HiddenSecret, one.value.length = other.value.length →
      ∀ t : Holed, BothApart one other t →
        redactPayloadFragment (.text (fill one.value t)) one.registry =
          redactPayloadFragment (.text (fill other.value t))
            other.registry := by
  intro hides
  have same := hides sampleOne sampleOther rfl dividedTemplate
    ⟨apart_of_all (by decide), apart_of_all (by decide)⟩
  revert same
  decide +kernel

end ParityGrid.Application
