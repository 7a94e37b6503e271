import QuoteService.Proofs.Json.RoundTrip
import QuoteService.Proofs.Text.Encoding

/-!
# Objects survive as bytes

What is sent and what is signed are the bytes of a rendered object. Its first two characters are a
brace and a quote, so that its encoding is told to be UTF-8.

* `render_isChars`: no half of a pair stands in the text of a plain value.
* `parseWith_encode_render`: **an object is read back from its bytes**.
* `parseStrict_encode_render`: so is any value by a reader that takes UTF-8 only.
-/

namespace QuoteService.Json

/-- No half of a pair stands in a text. -/
def IsChars (t : Text) : Prop := ∃ cs, t = Text.ofChars cs

theorem isChars_ofChars (cs : List Char) : IsChars (Text.ofChars cs) := ⟨cs, rfl⟩

theorem isChars_cons (c : Char) {t : Text} (h : IsChars t) : IsChars (.scalar c :: t) := by
  obtain ⟨cs, rfl⟩ := h
  exact ⟨c :: cs, rfl⟩

theorem isChars_append {t u : Text} (ht : IsChars t) (hu : IsChars u) : IsChars (t ++ u) := by
  obtain ⟨cs, rfl⟩ := ht
  obtain ⟨ds, rfl⟩ := hu
  exact ⟨cs ++ ds, (List.map_append ..).symm⟩

theorem IsChars.ofChars_scalars {t : Text} (h : IsChars t) : Text.ofChars t.scalars = t := by
  obtain ⟨cs, rfl⟩ := h
  rw [Text.scalars_ofChars]

variable {d : Dialect} {style : Style}

theorem renderPoint_isChars (c : Char) : IsChars (renderPoint style (.scalar c)) := by
  unfold renderPoint
  split
  case h_8 =>
    split
    · exact isChars_ofChars _
    · exact ⟨[c], rfl⟩
  all_goals exact isChars_ofChars _

theorem renderString_isChars (cs : List Char) : IsChars (renderString style (Text.ofChars cs)) := by
  refine isChars_cons '"' (isChars_append ?_ ⟨['"'], rfl⟩)
  induction cs with
  | nil => exact isChars_ofChars []
  | cons c cs ih => exact isChars_append (renderPoint_isChars c) ih

theorem renderItems_isChars {vs : List Json} (h : ∀ v ∈ vs, IsChars (render style v)) :
    IsChars (renderItems style vs) := by
  induction vs with
  | nil => exact isChars_ofChars []
  | cons v vs ih =>
    have hv := h v List.mem_cons_self
    cases vs with
    | nil => rwa [renderItems]
    | cons w ws =>
      rw [renderItems_cons]
      exact isChars_append hv (isChars_cons ',' (ih fun x hx => h x (List.mem_cons_of_mem _ hx)))

theorem renderMembers_isChars {ms : List (Text × Json)}
    (h : ∀ m ∈ ms, (∃ cs, m.1 = Text.ofChars cs) ∧ IsChars (render style m.2)) :
    IsChars (renderMembers style ms) := by
  induction ms with
  | nil => exact isChars_ofChars []
  | cons m ms ih =>
    obtain ⟨⟨cs, hname⟩, hvalue⟩ := h m List.mem_cons_self
    have hm : IsChars (renderString style m.1) := hname ▸ renderString_isChars cs
    cases ms with
    | nil => rw [renderMembers]; exact isChars_append hm (isChars_cons ':' hvalue)
    | cons w ws =>
      have hrest := ih fun x hx => h x (List.mem_cons_of_mem _ hx)
      rw [renderMembers_cons]
      exact isChars_append hm (isChars_cons ':' (isChars_append hvalue (isChars_cons ',' hrest)))

/-- The text of a plain value is characters. -/
theorem render_isChars {v : Json} (hv : Plain d v) : IsChars (render style v) := by
  induction hv with
  | null => exact isChars_ofChars _
  | bool b => cases b <;> exact isChars_ofChars _
  | int h => exact isChars_ofChars _
  | str cs => exact renderString_isChars cs
  | arr h ih => exact isChars_cons '[' (isChars_append (renderItems_isChars ih) ⟨[']'], rfl⟩)
  | obj hnames hchars h ih =>
    exact isChars_cons '\x7b' (isChars_append
      (renderMembers_isChars fun m hm => ⟨hchars m hm, ih m hm⟩) ⟨['\x7d'], rfl⟩)

/-- Bytes that begin with a brace and a quote are UTF-8. -/
theorem decodeText_brace (bs : List UInt8) :
    decodeText (0x7B :: 0x22 :: bs) = Utf8.decodeLoose (0x7B :: 0x22 :: bs) := by
  rcases bs with _ | ⟨b, _ | ⟨c, bs⟩⟩ <;> rfl

/-- **An object is read back from its bytes**, in either style. -/
theorem parseWith_encode_render {m : Text × Json} {ms : List (Text × Json)}
    (hv : Plain d (.obj (m :: ms))) (hdepth : depth (.obj (m :: ms)) ≤ d.maxDepth) :
    parseWith d (Utf8.encode (render style (.obj (m :: ms))).scalars) = .ok (.obj (m :: ms)) := by
  have hchars : IsChars (render style (.obj (m :: ms))) := render_isChars hv
  have hbytes : ∃ bs, Utf8.encode (render style (.obj (m :: ms))).scalars = 0x7B :: 0x22 :: bs := by
    obtain ⟨t, ht⟩ := head_renderMembers style m ms
    rw [render, ht]
    exact ⟨_, rfl⟩
  obtain ⟨bs, hbs⟩ := hbytes
  rw [parseWith, hbs, decodeText_brace, ← hbs, Utf8.decodeLoose_encode, hchars.ofChars_scalars]
  exact read_render hv hdepth

/-- A value is read back from its bytes by a reader that takes UTF-8 only. -/
theorem parseStrict_encode_render {v : Json} (hv : Plain .strict v)
    (hdepth : v.depth ≤ Dialect.strict.maxDepth) :
    parseStrict (Utf8.encode (render style v).scalars) = .ok v := by
  have hchars : IsChars (render style v) := render_isChars hv
  rw [parseStrict, Utf8.decode_encode]
  simp only [hchars.ofChars_scalars]
  exact read_render hv hdepth

end QuoteService.Json
