import WebSession.Proofs.Cookie.Setting

/-!
# WebSession.Proofs.Cookie.RoundTrip

**What a response sets comes back with the next request** (`Jar.SetsSessions.comesBack`), if the client
joins in one header what stands in front of the first semicolons of the headers of the response.

One cookie is read back whatever its name and value are (`pair?_part`), since both are tokens once they
are encoded, and decoded to themselves. In a header of many no cookie is merged with another, and their
order does not matter, because a jar has each name once.
-/

namespace WebSession.Cookie

/-! ### One cookie -/

theorem decoded?_percentEncode (s : String) : decoded? (percentEncode s).toList = some s := by
  have hascii : ∀ b, isPlain b = true → b < 0x80 := by
    intro b hb
    rw [isPlain, Bool.and_eq_true, Bool.and_eq_true, decide_eq_true_eq, decide_eq_true_eq] at hb
    exact UInt8.lt_trans hb.1.2 (by decide)
  rw [decoded?, String.ofList_toList, percentEncode, Percent.decode_encode (by decide) hascii,
    Bytes.text?_ofText]

theorem toList_percentEncode_ne_nil {s : String} (h : s ≠ "") : (percentEncode s).toList ≠ [] := by
  intro hnil
  have hdecoded := decoded?_percentEncode s
  rw [hnil, decoded?_bare (List.forall_mem_nil _)] at hdecoded
  exact h (Option.some.inj hdecoded).symm

/-- **A cookie is read back.** -/
theorem pair?_part {name : String} (hname : name ≠ "") (value : String) :
    pair? (part name value).toList = some (name, value) := by
  rw [toList_part]
  exact pair?_of_inert (fun _ => isInert_of_mem_percentEncode) (toList_percentEncode_ne_nil hname)
    (fun _ => isInert_of_mem_percentEncode) (decoded?_percentEncode name)
    (decoded?_percentEncode value)

example : part " ü=" "1" = "%20%C3%BC%3D=1" := by decide

theorem isVisible_of_mem_part {name value : String} {c : Char}
    (h : c ∈ (part name value).toList) : isVisible c = true := by
  rcases mem_part h with hinert | rfl
  · exact isVisible_of_isInert hinert
  · decide

/-- **So are many**, whatever order they come in. -/
theorem perm_parseHeader {fields : List (String × String)} (hnames : ∀ f ∈ fields, f.1 ≠ "")
    {parts : List String} (hparts : parts.Perm (fields.map fun f => part f.1 f.2)) :
    (parseHeader ("; ".intercalate parts)).Perm fields := by
  have hpart : ∀ p ∈ parts, ∃ f : String × String, p = part f.1 f.2 := by
    intro p hp
    obtain ⟨f, -, rfl⟩ := List.mem_map.mp (hparts.mem_iff.mp hp)
    exact ⟨f, rfl⟩
  have hread : (fields.map fun f => part f.1 f.2).filterMap (fun p => pair? p.toList) = fields := by
    rw [List.filterMap_map]
    refine (List.filterMap_congr fun f hf => ?_).trans List.filterMap_some
    exact pair?_part (hnames f hf) f.2
  rw [parseHeader_intercalate]
  · exact (hparts.filterMap _).trans (List.Perm.of_eq hread)
  · intro p hp c hc
    obtain ⟨f, rfl⟩ := hpart p hp
    exact isVisible_of_mem_part hc
  · intro p hp c hc
    obtain ⟨f, rfl⟩ := hpart p hp
    exact semicolon_not_mem_part hc

/-! ### The cookies of a response -/

namespace Jar

/-- The names and values that the response sets. -/
def sent (jar : Jar) : Dict String := jar.changes.map Cookie.value

theorem get?_sent {jar : Jar} {name : String} :
    jar.sent.get? name = (jar.changes.get? name).map Cookie.value := Fields.get?_map

/-- The response sets cookies of sessions alone, each under its own name, and all of them can be
sent. -/
def SetsSessions (jar : Jar) : Prop :=
  ∀ name c, jar.changes.get? name = some c → name ≠ "" ∧ ∃ b config,
    c = ofSession name (Base64Url.encode b) config ∧
      isHeaderText config.path = true ∧ isHeaderText config.domain = true

/-- A response that sets nothing yet. -/
theorem setsSessions_of_empty {jar : Jar} (h : jar.changes = .empty) : jar.SetsSessions := by
  intro name c hc
  rw [h] at hc
  cases hc

/-- The cookies of a response reach the client and come back from it. -/
structure ComesBack (jar : Jar) : Prop where
  /-- In front of the first semicolons stand the names and values. -/
  fronts_eq : jar.headers.map front =
    jar.sent.toList.map fun f => percentEncode f.1 ++ "=" ++ percentEncode f.2
  /-- No character of a name ends it. -/
  name_token : ∀ f ∈ jar.sent.toList, ∀ c ∈ (percentEncode f.1).toList, isToken c = true
  /-- No character of a value ends it, so that none is encoded. -/
  value_plain : ∀ f ∈ jar.sent.toList, percentEncode f.2 = f.2 ∧
    ∀ c ∈ f.2.toList, c.isAlphanum = true ∨ c = '-' ∨ c = '_'
  /-- Joined in any order, they are the cookies of the next request. -/
  next_eq : ∀ parts : List String, parts.Perm (jar.headers.map front) →
    ofHeaders ["; ".intercalate parts] = { received := jar.sent }

namespace SetsSessions

variable {jar : Jar} (h : jar.SetsSessions)

include h

theorem exists_of_mem {f : String × Cookie} (hf : f ∈ jar.changes.toList) :
    f.1 ≠ "" ∧ ∃ b config, f.2 = ofSession f.1 (Base64Url.encode b) config ∧
      isHeaderText config.path = true ∧ isHeaderText config.domain = true :=
  h f.1 f.2 (Fields.mem_toList_iff.mp hf)

theorem exists_of_mem_sent {f : String × String} (hf : f ∈ jar.sent.toList) :
    f.1 ≠ "" ∧ ∃ b, f.2 = Base64Url.encode b := by
  rw [sent, Fields.toList_map, List.mem_map] at hf
  obtain ⟨g, hg, rfl⟩ := hf
  obtain ⟨hname, b, config, hc, -⟩ := h.exists_of_mem hg
  exact ⟨hname, b, congrArg Cookie.value hc⟩

/-- No cookie of a session is left out. -/
theorem headers_eq : jar.headers = jar.changes.toList.map fun f => f.2.text := by
  refine List.filter_eq_self.mpr fun header hheader => ?_
  obtain ⟨f, hf, rfl⟩ := List.mem_map.mp hheader
  obtain ⟨-, b, config, hc, hpath, hdomain⟩ := h.exists_of_mem hf
  rw [hc]
  exact isHeaderText_text hpath hdomain _ _

theorem fronts_headers :
    jar.headers.map front = jar.sent.toList.map fun f => part f.1 f.2 := by
  rw [h.headers_eq, sent, Fields.toList_map, List.map_map, List.map_map]
  refine List.map_congr_left fun f hf => ?_
  obtain ⟨-, b, config, hc, -⟩ := h.exists_of_mem hf
  have hname : f.2.name = f.1 := congrArg Cookie.name hc
  rw [Function.comp_apply, Function.comp_apply, front_text, hname]

/-- **What the response sets** is what the next request holds. -/
theorem comesBack : jar.ComesBack where
  fronts_eq := h.fronts_headers
  name_token := fun _ _ _ => isToken_of_mem_percentEncode
  value_plain := by
    intro f hf
    obtain ⟨-, b, hb⟩ := h.exists_of_mem_sent hf
    rw [hb]
    exact ⟨percentEncode_encode b, fun _ => Base64Url.isAlphanum_of_mem_encode⟩
  next_eq := by
    intro parts hparts
    rw [h.fronts_headers] at hparts
    have hread := perm_parseHeader (fun f hf => (h.exists_of_mem_sent hf).1) hparts
    rw [ofHeaders, List.flatMap_singleton, Dict.ofList_of_perm hread]

end SetsSessions

end Jar

end WebSession.Cookie
