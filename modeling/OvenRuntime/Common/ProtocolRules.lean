/-
  OvenRuntime.Common.ProtocolRules
  ────────────────────────────────
  What the request parser raises.  Its checks end in faults, with three
  exceptions: names of both types do not sort, an array compares to an array,
  and the message about a request kind holds its `repr`, which may be nested
  beyond the recursion limit (`parse_error_iff`).
-/
import OvenRuntime.Common.Protocol

namespace OvenRuntime

/-! ## §1. Computations that raise nothing but faults. -/

/-- Every exception is a fault. -/
def RaisesFaults {α : Type} (x : Except Exn α) : Prop := ∀ e, x = .error e → e.isFault = true

namespace RaisesFaults

variable {α β : Type}

theorem ok (a : α) : RaisesFaults (.ok a : Except Exn α) := by
  intro e h
  cases h

theorem ofFault (f : RuntimeFault) : RaisesFaults (.error (.fault f) : Except Exn α) := by
  intro e h
  cases h
  rfl

theorem fault (code : ErrorCode) (message : String) (details : List (String × Value)) :
    RaisesFaults (.error (OvenRuntime.fault code message details) : Except Exn α) :=
  ofFault ⟨code, message, details⟩

theorem bind {x : Except Exn α} {f : α → Except Exn β} (hx : RaisesFaults x)
    (hf : ∀ a, x = .ok a → RaisesFaults (f a)) : RaisesFaults (x >>= f) := by
  cases x with
  | error e =>
      intro e' h
      exact hx e' (congrArg _ (Except.error.inj h))
  | ok a => exact hf a rfl

/-- A guard that throws a fault. -/
theorem guard {c : Prop} [Decidable c] {code : ErrorCode} {message : String}
    {details : List (String × Value)} {k : Except Exn α} (hk : ¬ c → RaisesFaults k) :
    RaisesFaults (if c then
      (throw (OvenRuntime.fault code message details) : Except Exn PUnit) >>= fun _ => k
      else k) := by
  by_cases hc : c
  · rw [if_pos hc]
    exact fault code message details
  · rw [if_neg hc]
    exact hk hc

end RaisesFaults

/-! ## §2. The names of the fields. -/

/-- Every required name is there. -/
def Complete (d : Dict) : Prop := ∀ f ∈ REQUIRED_REQUEST_FIELDS, Key.str f ∈ d.keys

/-- Nothing else is. -/
def Closed (d : Dict) : Prop := ∀ k ∈ d.keys, ∃ f ∈ REQUIRED_REQUEST_FIELDS, k = .str f

/-- A complete mapping has unexpected names of both types. -/
def MixedNames (d : Dict) : Prop :=
  Complete d ∧ (∃ s, Key.str s ∈ d.keys ∧ s ∉ REQUIRED_REQUEST_FIELDS) ∧ ∃ b, Key.bytes b ∈ d.keys

/-- A request of the right names and version has an array for its message
type, of more or less than one element. -/
def ArrayMessageType (d : Dict) : Prop :=
  Complete d ∧ Closed d ∧ d.get? "protocol_version" = some (.int PROTOCOL_VERSION) ∧
    ∃ a, d.get? "message_type" = some (.ndarray a) ∧ a.size ≠ 1

/-- The three fields in front of the request kind pass their checks. -/
def LeadingFields (d : Dict) : Prop :=
  ∃ session_id session_token trial_id : PyStr,
    d.get? "session_id" = some (.str session_id) ∧ session_id ≠ [] ∧ UUID session_id = true ∧
    d.get? "session_token" = some (.str session_token) ∧
    32 ≤ session_token.length ∧ session_token.length ≤ 128 ∧
    d.get? "trial_id" = some (.str trial_id) ∧ TRIAL_ID_PATTERN trial_id = true

/-- The `repr` of the value recurs, and further than the interpreter allows. -/
def Overflowing (repr_fits : Value → Bool) (v : Value) : Prop :=
  ((∃ items, v = .list items) ∨ ∃ entries, v = .map entries) ∧ repr_fits v = false

/-- A request is right up to its kind, which is a list or mapping nested too deeply. -/
def DeepKind (repr_fits : Value → Bool) (d : Dict) : Prop :=
  Complete d ∧ Closed d ∧ d.get? "protocol_version" = some (.int PROTOCOL_VERSION) ∧
    d.get? "message_type" = some (.str (py "inference_request")) ∧ LeadingFields d ∧
    ∃ kind, d.get? "request_kind" = some kind ∧ Overflowing repr_fits kind

/-- A payload on which the parser raises something else than a fault. -/
def Disorderly (repr_fits : Value → Bool) : Value → Prop
  | .map d => MixedNames d ∨ ArrayMessageType d ∨ DeepKind repr_fits d
  | _ => False

/-- The unexpected names, as the parser collects them. -/
def unexpectedNames (d : Dict) : List Key :=
  d.keys.filter fun
    | .str s => s ∉ REQUIRED_REQUEST_FIELDS
    | .bytes _ => true

theorem mem_unexpectedNames {d : Dict} {k : Key} :
    k ∈ unexpectedNames d ↔ k ∈ d.keys ∧ ∀ f ∈ REQUIRED_REQUEST_FIELDS, k ≠ .str f := by
  unfold unexpectedNames
  rw [List.mem_filter]
  refine and_congr_right fun _ => ?_
  cases k with
  | str s =>
      simp only [decide_eq_true_eq, ne_eq, Key.str.injEq]
      exact ⟨fun h f hf heq => h (heq ▸ hf), fun h hs => h s hs rfl⟩
  | bytes b => simp

/-- The names of one type. -/
theorem filterMap_isEmpty {α : Type} {keys : List Key} {f : Key → Option α} :
    (keys.filterMap f).isEmpty = true ↔ ∀ k ∈ keys, f k = none := by
  rw [List.isEmpty_iff, List.filterMap_eq_nil_iff]

/-- Names sort unless both types are among them. -/
theorem sortKeys_none_iff (keys : List Key) :
    sortKeys keys = none ↔ (∃ s, Key.str s ∈ keys) ∧ ∃ b, Key.bytes b ∈ keys := by
  unfold sortKeys
  simp only
  split
  · next hbytes =>
      rw [filterMap_isEmpty] at hbytes
      simp only [reduceCtorEq, false_iff, not_and, not_exists]
      intro _ b hb
      exact absurd (hbytes _ hb) (by simp)
  · next hbytes =>
      split
      · next hstrs =>
          rw [filterMap_isEmpty] at hstrs
          simp only [reduceCtorEq, false_iff, not_and, not_exists]
          intro ⟨s, hs⟩
          exact absurd (hstrs _ hs) (by simp)
      · next hstrs =>
          simp only [true_iff]
          rw [filterMap_isEmpty] at hbytes hstrs
          push Not at hbytes hstrs
          obtain ⟨k, hk, hkb⟩ := hbytes
          obtain ⟨k', hk', hks⟩ := hstrs
          constructor
          · cases k' with
            | str s => exact ⟨s, hk'⟩
            | bytes b => exact absurd rfl hks
          · cases k with
            | str s => exact absurd rfl hkb
            | bytes b => exact ⟨b, hk⟩

/-- Sorting loses no name. -/
theorem sortKeys_nil_iff {keys sorted : List Key} (h : sortKeys keys = some sorted) :
    sorted = [] ↔ keys = [] := by
  have hempty : ∀ hs : ∀ k ∈ keys, ∀ s, k ≠ .str s, ∀ hb : ∀ k ∈ keys, ∀ b, k ≠ .bytes b,
      keys = [] := by
    intro hs hb
    refine List.eq_nil_iff_forall_not_mem.mpr fun k hk => ?_
    cases k with
    | str s => exact hs _ hk s rfl
    | bytes b => exact hb _ hk b rfl
  constructor
  · rintro rfl
    unfold sortKeys at h
    simp only at h
    split at h
    · next hbytes =>
        rw [filterMap_isEmpty] at hbytes
        have hsorted := congrArg List.length (Option.some.inj h)
        rw [List.length_map, sortStrs, List.length_insertionSort] at hsorted
        have hstrs := filterMap_isEmpty.mp (List.isEmpty_iff.mpr (List.length_eq_zero_iff.mp hsorted))
        refine hempty ?_ ?_
        · intro k hk s heq
          subst heq
          exact absurd (hstrs _ hk) (by simp)
        · intro k hk b heq
          subst heq
          exact absurd (hbytes _ hk) (by simp)
    · split at h
      · next hstrs =>
          rw [filterMap_isEmpty] at hstrs
          have hsorted := congrArg List.length (Option.some.inj h)
          rw [List.length_map, List.length_insertionSort] at hsorted
          have hbytes :=
            filterMap_isEmpty.mp (List.isEmpty_iff.mpr (List.length_eq_zero_iff.mp hsorted))
          refine hempty ?_ ?_
          · intro k hk s heq
            subst heq
            exact absurd (hstrs _ hk) (by simp)
          · intro k hk b heq
            subst heq
            exact absurd (hbytes _ hk) (by simp)
      · cases h
  · rintro rfl
    exact (Option.some.inj h).symm

/-- The four ways through the check of the names. -/
theorem checkRequestFields_cases (d : Dict) :
    (¬ Complete d ∧ ∃ f, checkRequestFields d = .error (.fault f)) ∨
    (MixedNames d ∧ checkRequestFields d = .error (.error .TypeError)) ∨
    (¬ MixedNames d ∧ ¬ Closed d ∧ ∃ f, checkRequestFields d = .error (.fault f)) ∨
    (Complete d ∧ Closed d ∧ checkRequestFields d = .ok ()) := by
  have hmissing : sortStrs (REQUIRED_REQUEST_FIELDS.filter fun f => Key.str f ∉ d.keys) = [] ↔
      Complete d := by
    unfold sortStrs Complete
    rw [← List.length_eq_zero_iff, List.length_insertionSort, List.length_eq_zero_iff,
      List.filter_eq_nil_iff]
    simp
  have hclosed : unexpectedNames d = [] ↔ Closed d := by
    rw [List.eq_nil_iff_forall_not_mem]
    simp only [mem_unexpectedNames, not_and, not_forall, Closed, exists_prop, ne_eq,
      not_not]
  unfold checkRequestFields
  by_cases hc : Complete d
  · rw [if_neg (not_not.mpr (hmissing.mpr hc))]
    have hmixed : sortKeys (unexpectedNames d) = none ↔ MixedNames d := by
      rw [sortKeys_none_iff]
      simp only [mem_unexpectedNames, MixedNames, hc, true_and]
      refine and_congr (exists_congr fun s => and_congr_right fun _ => ?_)
        (exists_congr fun b => ?_)
      · simp only [ne_eq, Key.str.injEq]
        exact ⟨fun h hs => h s hs rfl, fun h f hf heq => h (heq ▸ hf)⟩
      · simp
    unfold unexpectedNames at hclosed hmixed
    split
    · next hnone => exact .inr (.inl ⟨hmixed.mp hnone, rfl⟩)
    · next hsome =>
        exact .inr (.inr (.inr ⟨hc, hclosed.mp ((sortKeys_nil_iff hsome).mp rfl), rfl⟩))
    · next unexpected hne hsome =>
        refine .inr (.inr (.inl ⟨?_, ?_, _, rfl⟩))
        · intro h
          cases (hmixed.mpr h).symm.trans hsome
        · intro h
          exact hne ((sortKeys_nil_iff hsome).mpr (hclosed.mpr h))
  · simp only [ne_eq, hmissing, hc, not_false_eq_true, if_true]
    exact .inl ⟨trivial, _, rfl⟩

/-! ## §3. The header. -/

/-- An entry that is there can be read. -/
theorem Dict.getItem_of_mem {d : Dict} {name : String} (h : Key.str (py name) ∈ d.keys) :
    ∃ v, d.get? name = some v ∧ d.getItem name = .ok v := by
  have hsome : (d.get? name).isSome = true := by
    unfold Dict.get?
    rw [List.lookup_isSome_iff]
    obtain ⟨e, he, hk⟩ := List.mem_map.mp h
    exact ⟨e, he, by rw [hk]; exact beq_self_eq_true _⟩
  obtain ⟨v, hv⟩ := Option.isSome_iff_exists.mp hsome
  refine ⟨v, hv, ?_⟩
  unfold Dict.getItem
  rw [hv]

/-- The header raises a fault, unless the version is right and the message
type an array. -/
theorem checkRequestHeader_error {d : Dict} (hd : Complete d) {e : Exn}
    (h : checkRequestHeader d = .error e) :
    e.isFault = true ↔ ¬ (d.get? "protocol_version" = some (.int PROTOCOL_VERSION) ∧
      ∃ a, d.get? "message_type" = some (.ndarray a) ∧ a.size ≠ 1) := by
  obtain ⟨version, hversion, hgetv⟩ := Dict.getItem_of_mem (hd _ (by decide) : Key.str (py "protocol_version") ∈ d.keys)
  obtain ⟨message_type, hmt, hgetm⟩ := Dict.getItem_of_mem (hd _ (by decide) : Key.str (py "message_type") ∈ d.keys)
  unfold checkRequestHeader at h
  rw [hgetv] at h
  rw [hversion, hmt]
  simp only [bind, Except.bind] at h
  cases version with
  | int v =>
      simp only [Value.exactInt?] at h
      by_cases hv : v = PROTOCOL_VERSION
      · rw [if_neg (not_not.mpr hv), hgetm] at h
        simp only [messageTypeDiffers] at h
        cases message_type with
        | str text =>
            by_cases htext : text = py "inference_request"
            · simp only [htext, ne_eq, not_true, decide_false, Bool.false_eq_true, if_false] at h
              cases h
            · simp only [ne_eq, htext, not_false_eq_true, decide_true, if_true] at h
              cases h
              simp [OvenRuntime.fault, Exn.isFault]
        | ndarray a =>
            by_cases ha : a.size = 1
            · simp only [ha, if_true] at h
              cases h
              simp [ha, OvenRuntime.fault, Exn.isFault]
            · simp only [ha, if_false] at h
              cases h
              simp [hv, ha, Exn.isFault]
        | _ =>
            cases h
            simp [OvenRuntime.fault, Exn.isFault]
      · rw [if_pos hv] at h
        cases h
        simp [hv, OvenRuntime.fault, Exn.isFault]
  | _ =>
      cases h
      simp [OvenRuntime.fault, Exn.isFault]

/-- A header with the right version and the right message type passes. -/
theorem checkRequestHeader_of_get {d : Dict}
    (hversion : d.get? "protocol_version" = some (.int PROTOCOL_VERSION))
    (hmt : d.get? "message_type" = some (.str (py "inference_request"))) :
    checkRequestHeader d = .ok PROTOCOL_VERSION := by
  unfold checkRequestHeader Dict.getItem
  rw [hversion, hmt]
  rfl

theorem Dict.get?_of_getItem {d : Dict} {name : String} {v : Value} (h : d.getItem name = .ok v) :
    d.get? name = some v := by
  unfold Dict.getItem at h
  split at h
  · next hget =>
      cases h
      exact hget
  · cases h

/-- A header that passes has the right version and the right message type. -/
theorem checkRequestHeader_ok {d : Dict} {v : Int} (h : checkRequestHeader d = .ok v) :
    d.get? "protocol_version" = some (.int PROTOCOL_VERSION) ∧
      d.get? "message_type" = some (.str (py "inference_request")) := by
  unfold checkRequestHeader at h
  obtain ⟨version, hversion, h⟩ := bind_ok.mp h
  cases version with
  | int i =>
      simp only [Value.exactInt?] at h
      split at h
      · cases h
      · next hi =>
          have hi := not_not.mp hi
          rw [hi] at hversion
          refine ⟨Dict.get?_of_getItem hversion, ?_⟩
          obtain ⟨message_type, hget, h⟩ := bind_ok.mp h
          obtain ⟨differs, hdiffers, h⟩ := bind_ok.mp h
          cases differs with
          | true => cases h
          | false =>
              cases message_type with
              | str text =>
                  have htext : decide (text ≠ py "inference_request") = false :=
                    Except.ok.inj hdiffers
                  rw [decide_eq_false_iff_not, not_not] at htext
                  rw [← htext]
                  exact Dict.get?_of_getItem hget
              | ndarray a =>
                  simp only [messageTypeDiffers] at hdiffers
                  split at hdiffers <;> cases hdiffers
              | _ => cases hdiffers
  | _ => cases h

/-! ## §4. The fields after the header. -/

theorem Dict.getItem_faults {d : Dict} {name : String} (h : Key.str (py name) ∈ d.keys) :
    RaisesFaults (d.getItem name) := by
  obtain ⟨v, -, hv⟩ := Dict.getItem_of_mem h
  rw [hv]
  exact .ok v

theorem _required_string_faults {d : Dict} {name : String} (h : Key.str (py name) ∈ d.keys) :
    RaisesFaults (_required_string d name) := by
  obtain ⟨v, -, hv⟩ := Dict.getItem_of_mem h
  unfold _required_string
  rw [hv]
  cases v with
  | str value =>
      simp only
      split
      · exact .fault _ _ _
      · exact .ok _
  | _ => exact .fault _ _ _

theorem _required_integer_faults {d : Dict} {name : String} {minimum : Int}
    (h : Key.str (py name) ∈ d.keys) : RaisesFaults (_required_integer d name minimum) := by
  obtain ⟨v, -, hv⟩ := Dict.getItem_of_mem h
  unfold _required_integer
  rw [hv]
  simp only
  split
  · exact .fault _ _ _
  · split
    · exact .fault _ _ _
    · exact .ok _

theorem _required_string_ok {d : Dict} {name : String} {text : PyStr} :
    _required_string d name = .ok text ↔ d.get? name = some (.str text) ∧ text ≠ [] := by
  constructor
  · intro h
    unfold _required_string at h
    split at h
    · cases h
    · next value hvalue =>
        split at h
        · cases h
        · next hempty =>
            cases h
            refine ⟨Dict.get?_of_getItem hvalue, ?_⟩
            rintro rfl
            exact hempty rfl
    · cases h
  · rintro ⟨hget, hne⟩
    unfold _required_string Dict.getItem
    rw [hget]
    simp [hne]

/-- An enumeration raises a `ValueError`, unless the `repr` of the value overflows. -/
theorem notMember_cases (repr_fits : Value → Bool) (v : Value) :
    (Overflowing repr_fits v ∧ notMember repr_fits v = .RuntimeError) ∨
    (¬ Overflowing repr_fits v ∧ notMember repr_fits v = .ValueError) := by
  unfold Overflowing notMember
  cases v with
  | list items => cases hfits : repr_fits (.list items) <;> simp [hfits]
  | map entries => cases hfits : repr_fits (.map entries) <;> simp [hfits]
  | _ => simp

theorem RequestKind.ofValue_error {repr_fits : Value → Bool} {v : Value} {e : PyError}
    (h : RequestKind.ofValue repr_fits v = .error e) : e = notMember repr_fits v := by
  unfold RequestKind.ofValue at h
  split at h
  · split at h
    · cases h
    · cases h
      rfl
  · cases h
    rfl

/-- The kind of a request is refused with a fault, unless its `repr` overflows. -/
theorem requestKind_error {repr_fits : Value → Bool} {v : Value} {e : Exn}
    (h : requestKind repr_fits v = .error e) : e.isFault = true ↔ ¬ Overflowing repr_fits v := by
  unfold requestKind at h
  cases hkind : RequestKind.ofValue repr_fits v with
  | ok kind =>
      rw [hkind] at h
      cases h
  | error e' =>
      simp only [hkind, RequestKind.ofValue_error hkind] at h
      rcases notMember_cases repr_fits v with ⟨hover, hraised⟩ | ⟨hover, hraised⟩
      · -- the handler does not know the error, and it gets out
        rw [hraised, if_neg (by decide)] at h
        cases h
        simp [hover, Exn.isFault]
      · rw [hraised, if_pos (by decide)] at h
        cases h
        simp [hover, OvenRuntime.fault, Exn.isFault]

/-- A kind whose `repr` overflows is no kind. -/
theorem requestKind_overflowing {repr_fits : Value → Bool} {v : Value}
    (h : Overflowing repr_fits v) : ∃ e, requestKind repr_fits v = .error e := by
  obtain ⟨hnested, hfits⟩ := h
  rcases hnested with ⟨items, rfl⟩ | ⟨entries, rfl⟩
  · exact ⟨_, by simp only [requestKind, RequestKind.ofValue, notMember, hfits]; rfl⟩
  · exact ⟨_, by simp only [requestKind, RequestKind.ofValue, notMember, hfits]; rfl⟩

/-- Past the header every exception is a fault, unless the kind of the request overflows. -/
theorem parseRequestFields_faults {repr_fits : Value → Bool} {d : Dict} (hd : Complete d)
    (hkind : LeadingFields d → ∀ kind, d.get? "request_kind" = some kind →
      ¬ Overflowing repr_fits kind) (version : Int) :
    RaisesFaults (parseRequestFields repr_fits version d) := by
  unfold parseRequestFields
  refine (_required_string_faults (hd _ (by decide))).bind fun session_id hsession => ?_
  refine .guard fun huuid => ?_
  refine (_required_string_faults (hd _ (by decide))).bind fun session_token htoken => ?_
  refine .guard fun hlength => ?_
  refine (_required_string_faults (hd _ (by decide))).bind fun trial_id htrial => ?_
  refine .guard fun hpattern => ?_
  refine (Dict.getItem_faults (hd _ (by decide))).bind fun kind hget => ?_
  refine RaisesFaults.bind ?_ fun request_kind _ => ?_
  · -- the checks so far are those in front of the kind
    intro e he
    rw [_required_string_ok] at hsession htoken htrial
    simp only [Bool.not_eq_true', Bool.not_eq_false, Bool.and_eq_true, decide_eq_true_eq]
      at huuid hlength hpattern
    refine (requestKind_error he).mpr (hkind ?_ kind (Dict.get?_of_getItem hget))
    exact ⟨session_id, session_token, trial_id, hsession.1, hsession.2, huuid, htoken.1,
      hlength.1, hlength.2, htrial.1, hpattern⟩
  · refine (_required_string_faults (hd _ (by decide))).bind fun expected_skill _ => ?_
    refine (_required_integer_faults (hd _ (by decide))).bind fun generation _ => ?_
    refine (_required_integer_faults (hd _ (by decide))).bind fun sequence _ => ?_
    refine (_required_integer_faults (hd _ (by decide))).bind fun sent_at _ => ?_
    refine (Dict.getItem_faults (hd _ (by decide))).bind fun observation _ => ?_
    split
    · exact .ok _
    · exact .fault _ _ _

/-- Fields that are right up to the kind come to what the kind raises. -/
theorem parseRequestFields_kind {repr_fits : Value → Bool} {d : Dict} (hleading : LeadingFields d)
    {kind : Value} (hget : d.get? "request_kind" = some kind) {e : Exn}
    (he : requestKind repr_fits kind = .error e) (version : Int) :
    parseRequestFields repr_fits version d = .error e := by
  obtain ⟨session_id, session_token, trial_id, hsession, hne, huuid, htoken, hlow, hhigh, htrial,
    hpattern⟩ := hleading
  have htoken_ne : session_token ≠ [] := by
    rintro rfl
    simp at hlow
  have htrial_ne : trial_id ≠ [] := by
    rintro rfl
    cases hpattern
  have hkind : d.getItem "request_kind" = .ok kind := by
    unfold Dict.getItem
    rw [hget]
  unfold parseRequestFields
  rw [_required_string_ok.mpr ⟨hsession, hne⟩, _required_string_ok.mpr ⟨htoken, htoken_ne⟩,
    _required_string_ok.mpr ⟨htrial, htrial_ne⟩, hkind]
  simp only [bind, Except.bind, huuid, hlow, hhigh, hpattern, he]
  rfl

/-! ## §5. The parser. -/

section Parser

variable {repr_fits : Value → Bool}

/-- A mapping without a name it needs is orderly. -/
theorem not_disorderly_of_incomplete {d : Dict} (h : ¬ Complete d) :
    ¬ Disorderly repr_fits (.map d) := by
  rintro (hmixed | harray | hdeep)
  · exact h hmixed.1
  · exact h harray.1
  · exact h hdeep.1

/-- A mapping of the right names has no names of both types. -/
theorem not_mixedNames_of_closed {d : Dict} (h : Closed d) : ¬ MixedNames d := by
  rintro ⟨_, ⟨s, hs, hns⟩, _⟩
  obtain ⟨f, hf, heq⟩ := h _ hs
  exact hns (Key.str.inj heq ▸ hf)

/-- On a mapping of the right names the parser goes on to the header. -/
theorem parse_of_fields {d : Dict} (h : checkRequestFields d = .ok ()) :
    InferenceRequest.parse repr_fits (.map d) =
      checkRequestHeader d >>= fun v => parseRequestFields repr_fits v d := by
  simp only [InferenceRequest.parse, h]
  rfl

/-- After a header that passes, only the kind of the request is out of order. -/
theorem disorderly_iff_of_header {d : Dict} (hc : Complete d) (hclosed : Closed d) {v : Int}
    (h : checkRequestHeader d = .ok v) :
    Disorderly repr_fits (.map d) ↔
      LeadingFields d ∧ ∃ kind, d.get? "request_kind" = some kind ∧ Overflowing repr_fits kind := by
  obtain ⟨hversion, hmt⟩ := checkRequestHeader_ok h
  constructor
  · rintro (hmixed | ⟨-, -, -, a, ha, -⟩ | hdeep)
    · exact (not_mixedNames_of_closed hclosed hmixed).elim
    · cases hmt.symm.trans ha
    · exact hdeep.2.2.2.2
  · intro hkind
    exact .inr (.inr ⟨hc, hclosed, hversion, hmt, hkind⟩)

/-- Before a header that is refused, only an array for the message type is. -/
theorem disorderly_iff_of_refused {d : Dict} (hc : Complete d) (hclosed : Closed d) {e : Exn}
    (h : checkRequestHeader d = .error e) :
    Disorderly repr_fits (.map d) ↔
      d.get? "protocol_version" = some (.int PROTOCOL_VERSION) ∧
        ∃ a, d.get? "message_type" = some (.ndarray a) ∧ a.size ≠ 1 := by
  constructor
  · rintro (hmixed | harray | ⟨-, -, hversion, hmt, -⟩)
    · exact (not_mixedNames_of_closed hclosed hmixed).elim
    · exact harray.2.2
    · cases h.symm.trans (checkRequestHeader_of_get hversion hmt)
  · intro harray
    exact .inr (.inl ⟨hc, hclosed, harray⟩)

/-- **The parser raises a fault** exactly if the payload is not disorderly. -/
theorem parse_error_iff {payload : Value} {e : Exn}
    (h : InferenceRequest.parse repr_fits payload = .error e) :
    e.isFault = true ↔ ¬ Disorderly repr_fits payload := by
  cases payload with
  | map d =>
      rcases checkRequestFields_cases d with ⟨hc, f, hf⟩ | ⟨hmixed, hf⟩ | ⟨hmixed, hclosed, f, hf⟩
          | ⟨hc, hclosed, hf⟩
      · -- a name is missing
        simp only [InferenceRequest.parse, hf] at h
        cases h
        exact ⟨fun _ => not_disorderly_of_incomplete hc, fun _ => rfl⟩
      · simp only [InferenceRequest.parse, hf] at h
        cases h
        simp [Exn.isFault, Disorderly, hmixed]
      · -- a name is unexpected
        simp only [InferenceRequest.parse, hf] at h
        cases h
        simp [Exn.isFault, Disorderly, hmixed, ArrayMessageType, DeepKind, hclosed]
      · rw [parse_of_fields hf] at h
        cases hheader : checkRequestHeader d with
        | error e' =>
            rw [hheader] at h
            have heq : e' = e := Except.error.inj h
            rw [← heq, checkRequestHeader_error hc hheader,
              disorderly_iff_of_refused hc hclosed hheader]
        | ok v =>
            rw [hheader] at h
            have hfields : parseRequestFields repr_fits v d = .error e := h
            rw [disorderly_iff_of_header hc hclosed hheader]
            constructor
            · rintro hfault ⟨hleading, kind, hget, hover⟩
              obtain ⟨e', he'⟩ := requestKind_overflowing hover
              have heq : e' = e := Except.error.inj
                ((parseRequestFields_kind hleading hget he' v).symm.trans hfields)
              exact (requestKind_error he').mp (heq ▸ hfault) hover
            · intro hkind
              exact parseRequestFields_faults hc
                (fun hleading kind hget hover => hkind ⟨hleading, kind, hget, hover⟩) v e hfields
  | _ =>
      cases h
      exact ⟨fun _ hd => hd.elim, fun _ => rfl⟩

/-- What the parser accepts is orderly. -/
theorem not_disorderly_of_parse {payload : Value} {request : InferenceRequest}
    (h : InferenceRequest.parse repr_fits payload = .ok request) :
    ¬ Disorderly repr_fits payload := by
  cases payload with
  | map d =>
      rcases checkRequestFields_cases d with ⟨-, f, hf⟩ | ⟨-, hf⟩ | ⟨-, -, f, hf⟩
          | ⟨hc, hclosed, hf⟩
      · simp only [InferenceRequest.parse, hf] at h
        cases h
      · simp only [InferenceRequest.parse, hf] at h
        cases h
      · simp only [InferenceRequest.parse, hf] at h
        cases h
      · rw [parse_of_fields hf] at h
        obtain ⟨v, hheader, hfields⟩ := bind_ok.mp h
        rw [disorderly_iff_of_header hc hclosed hheader]
        rintro ⟨hleading, kind, hget, hover⟩
        obtain ⟨e, he⟩ := requestKind_overflowing hover
        cases hfields.symm.trans (parseRequestFields_kind hleading hget he v)
  | _ => exact fun hd => hd.elim

theorem requestKind_ok {v : Value} {kind : RequestKind} (h : requestKind repr_fits v = .ok kind)
    (repr_fits' : Value → Bool) : requestKind repr_fits' v = .ok kind := by
  cases v with
  | str text => exact h
  | list | map =>
      simp only [requestKind, RequestKind.ofValue] at h
      split at h <;> cases h
  | _ => cases h

/-- What one interpreter accepts every other one does. -/
theorem InferenceRequest.parse_ok {payload : Value} {request : InferenceRequest}
    (h : InferenceRequest.parse repr_fits payload = .ok request) (repr_fits' : Value → Bool) :
    InferenceRequest.parse repr_fits' payload = .ok request := by
  cases payload with
  | map d =>
      unfold InferenceRequest.parse parseRequestFields at h ⊢
      simp only [guard_ok, bind_ok] at h ⊢
      obtain ⟨u, hu, version, hversion, session_id, hsession, huuid, token, htoken, hlength,
        trial_id, htrial, hpattern, kind, hkind, request_kind, hrequest, h⟩ := h
      exact ⟨u, hu, version, hversion, session_id, hsession, huuid, token, htoken, hlength,
        trial_id, htrial, hpattern, kind, hkind, request_kind, requestKind_ok hrequest repr_fits', h⟩
  | _ => cases h

/-- The parser refuses disorderly payloads as well, in its own way. -/
theorem parse_disorderly {payload : Value} (h : Disorderly repr_fits payload) :
    ∃ e, InferenceRequest.parse repr_fits payload = .error e ∧ e.isFault = false := by
  cases hparse : InferenceRequest.parse repr_fits payload with
  | error e =>
      refine ⟨e, rfl, ?_⟩
      rw [← Bool.not_eq_true, parse_error_iff hparse, not_not]
      exact h
  | ok request => exact absurd h (not_disorderly_of_parse hparse)

end Parser

end OvenRuntime
