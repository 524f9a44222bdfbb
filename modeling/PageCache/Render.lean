import PageCache.Entry

/-!
# The render contract

The cache renders nothing itself. It hands a `RouteRequest` to a renderer, which is slow and may
fail, and stores the `RenderOutput` that comes back.
-/

namespace PageCache

/-- A resolved route, ready to be looked up or rendered. -/
structure RouteRequest where
  /-- the key its entry is cached under -/
  key : Key
  /-- the route to render -/
  route : String
  /-- the parameters to render it with -/
  params : SortedMap String String
deriving DecidableEq, Inhabited

namespace RouteRequest

/-- The request whose key is derived from the route and its parameters. -/
def ofRoute (route : String) (params : SortedMap String String) : RouteRequest :=
  ⟨Key.ofRoute route params none, route, params⟩

/-- The request with its key derived anew, for a negotiated locale. -/
def localized (r : RouteRequest) (locale : String) : RouteRequest :=
  { r with key := Key.ofRoute r.route r.params (some locale) }

end RouteRequest

/-- What one render gives. -/
structure RenderOutput where
  /-- the rendered bytes -/
  body : ByteArray
  /-- the labels it is to be invalidated by -/
  tags : SortedSet Tag
  /-- how it ages -/
  revalidate : Revalidate
deriving DecidableEq, Inhabited

namespace RenderOutput

/-- A static output without tags. -/
def ofBody (body : ByteArray) : RenderOutput := ⟨body, ∅, .never⟩

/-- The output with one more tag. -/
def withTag (o : RenderOutput) (t : Tag) : RenderOutput := { o with tags := o.tags.insert t }

/-- The output with more tags. -/
def withTags (o : RenderOutput) (ts : List Tag) : RenderOutput :=
  { o with tags := o.tags.insertAll ts }

/-- The output with another way to age. -/
def withRevalidate (o : RenderOutput) (r : Revalidate) : RenderOutput := { o with revalidate := r }

end RenderOutput

/-- Why a render gave nothing. -/
inductive RenderError where
  /-- the renderer reported a failure -/
  | failed (message : String)
  /-- the renderer was not done in time -/
  | timeout (after : Duration)
  /-- the task that rendered broke down -/
  | aborted (message : String)
deriving DecidableEq, Inhabited

/-- The text of a render's error. -/
def RenderError.message : RenderError → String
  | .failed m => "render failed: " ++ m
  | .timeout d => "render timed out after " ++ toString d.millis ++ "ms"
  | .aborted m => "render task aborted: " ++ m

end PageCache
