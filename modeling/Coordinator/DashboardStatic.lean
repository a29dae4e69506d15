import Coordinator.PathGuard

namespace Coordinator

/-- What `getDashboardDir` answers: it ends with a `path.resolve`. -/
structure DashboardDir (cwd : WorkingDirectory) where
  path : String
  resolved : ∃ parts, path.toList = pathResolve cwd parts

/-- The files below the daemon; `readFileSync` throws on what is no readable file. -/
structure StaticFiles where
  existsSync : String → Bool
  readFileSync : String → Option String

inductive DashboardReply
  /-- The URL belongs to a later route. -/
  | passed
  | refused (status : Nat) (error : String)
  | served (file : String) (headers : List (String × String)) (content : String)
  | thrown
  deriving DecidableEq, Repr

/-- `url.split("?")[0]`. -/
def urlNoQuery (url : String) : List Char := url.toList.takeWhile (· ≠ '?')

/-- `text.replace(needle, "")`. -/
def replaceWithNothing (needle : List Char) : List Char → List Char
  | [] => []
  | c :: rest =>
    if needle.isPrefixOf (c :: rest) then (c :: rest).drop needle.length else c :: replaceWithNothing needle rest

/-- `path.join`. -/
def pathJoin (paths : List (List Char)) : List Char :=
  PosixPath.normalize '/' '.' (PosixPath.join '/' (paths.filter (· ≠ [])))

/-- `path.extname`; a dot in front of a name begins no extension. -/
def extname (p : String) : String :=
  let name := (p.toList.rdropWhile (· = '/')).rtakeWhile (· ≠ '/')
  let stem := name.rdropWhile (· ≠ '.')
  if name = ['.', '.'] ∨ stem.length ≤ 1 then "" else String.ofList ('.' :: name.drop stem.length)

def contentTypes : List (String × String) :=
  [(".html", "text/html"), (".js", "application/javascript"), (".css", "text/css"), (".json", "application/json")]

/-- `contentTypes[ext] || "text/plain"`. -/
def contentType (ext : String) : String := (contentTypes.lookup ext).getD "text/plain"

def dashboardPrefix : List Char := "/dashboard/".toList

/-- `admin(?:-[a-z]+)?\\.(?:html|js|css)`. -/
def isAdminName (name : List Char) : Bool :=
  let rest := name.drop "admin".length
  let word := rest.takeWhile (· ≠ '.')
  "admin".toList.isPrefixOf name &&
    (word = [] || (word.head? = some '-' && word.tail ≠ [] && word.tail.all fun c => 'a' ≤ c && c ≤ 'z')) &&
      [".html", ".js", ".css"].any fun ext => rest.dropWhile (· ≠ '.') = ext.toList

def isAdminAsset (urlNoQuery : List Char) : Bool :=
  dashboardPrefix.isPrefixOf urlNoQuery && isAdminName (urlNoQuery.drop dashboardPrefix.length)

def adminHeaders (contentType : String) : List (String × String) :=
  [("Content-Type", contentType),
    ("Content-Security-Policy",
      "default-src 'self'; script-src 'self'; style-src 'self'; img-src 'self' data:; connect-src 'self'; " ++
        "frame-ancestors 'none'; base-uri 'self'; form-action 'self'"),
    ("X-Frame-Options", "DENY"), ("X-Content-Type-Options", "nosniff"), ("Referrer-Policy", "same-origin"),
    ("Cache-Control", "no-store")]

def legacyHeaders (contentType : String) : List (String × String) :=
  [("Content-Type", contentType), ("Access-Control-Allow-Origin", "*"),
    ("Content-Security-Policy",
      "default-src 'self'; script-src 'self'; style-src 'self' 'unsafe-inline'; img-src 'self' data:; connect-src 'self'; " ++
        "frame-ancestors 'none'; base-uri 'self'; form-action 'self'"),
    ("X-Content-Type-Options", "nosniff"), ("X-Frame-Options", "DENY"), ("Referrer-Policy", "same-origin")]

/-- `filePath`. -/
def dashboardFile (cwd : WorkingDirectory) (dir : DashboardDir cwd) (url : String) : Option String :=
  if url = "/dashboard" ∨ url = "/dashboard/" then
    some (String.ofList (pathJoin [dir.path.toList, "index.html".toList]))
  else
    let urlPath := String.ofList (replaceWithNothing dashboardPrefix (urlNoQuery url))
    safeJoinUnderRoot cwd dir.path urlPath

/-- The dashboard's branch of the request handler. -/
def serveDashboard (cwd : WorkingDirectory) (dashboardDir : Option (DashboardDir cwd)) (files : StaticFiles) (url : String) :
    DashboardReply :=
  if url = "/dashboard" || dashboardPrefix.isPrefixOf url.toList then
    match dashboardDir with
    | none => .refused 404 "dashboard not available"
    | some dir =>
      match dashboardFile cwd dir url with
      | none => .refused 404 "not found"
      | some file =>
        if files.existsSync file then
          match files.readFileSync file with
          | none => .thrown
          | some content =>
            let type := contentType (extname file)
            .served file (if isAdminAsset (urlNoQuery url) then adminHeaders type else legacyHeaders type) content
        else .refused 404 "not found"
  else .passed

/-- The text between `/dashboard/` and the query. -/
def spelling (url : String) : List Char := (urlNoQuery url).drop dashboardPrefix.length

/-- A URL that says the name of the file as it is. -/
def PlainSpelling (url : String) : Prop :=
  '%' ∉ spelling url ∧ '/' ∉ spelling url ∧ (spelling url).head? ≠ some '\\'

/-- A reply as an administration page's is meant to be. -/
structure Hardened (url file : String) (headers : List (String × String)) : Prop where
  asset : isAdminAsset (urlNoQuery url) = true
  hardened : headers = adminHeaders (contentType (extname file))
  closed : ∀ header ∈ headers, header.1 ≠ "Access-Control-Allow-Origin"

section dashboard
variable {cwd : WorkingDirectory} {dir : DashboardDir cwd} {files : StaticFiles} {url file content : String}
  {headers : List (String × String)} {name text : List Char}

theorem uriBytes_plain (plain : '%' ∉ text) : uriBytes text = some (text.flatMap String.utf8EncodeChar) := by
  fun_induction uriBytes text with
  | case1 => rfl
  | case2 => exact absurd List.mem_cons_self plain
  | case3 => exact absurd List.mem_cons_self plain
  | case4 => exact absurd List.mem_cons_self plain
  | case5 c rest _ other ih =>
    rw [ih fun inside => plain (List.mem_cons_of_mem _ inside), List.flatMap_cons]
    rfl

theorem decodeURIComponent_plain (plain : '%' ∉ text) :
    decodeURIComponent (String.ofList text) = some (String.ofList text) := by
  have bytes : (⟨(text.flatMap String.utf8EncodeChar).toArray⟩ : ByteArray) = (String.ofList text).toByteArray :=
    ByteArray.ext (by simp [List.utf8Encode])
  rw [decodeURIComponent, String.toList_ofList, uriBytes_plain plain, Option.bind_some, bytes]
  exact dif_pos (String.ofList text).isValidUTF8

/-- A character that stands for itself in a name below the directory. -/
def plainChar (c : Char) : Bool := c ≠ '%' && c ≠ '/' && c ≠ '\\'

theorem plainChar_of_lower {c : Char} (lower : ('a' ≤ c && c ≤ 'z') = true) : plainChar c = true := by
  have low : 'a' ≤ c := of_decide_eq_true (Bool.and_eq_true_iff.mp lower).1
  have apart : ∀ d, ¬ 'a' ≤ d → c ≠ d := by
    rintro d below rfl
    exact below low
  simp only [plainChar, Bool.and_eq_true, decide_eq_true_eq]
  exact ⟨⟨apart '%' (by decide), apart '/' (by decide)⟩, apart '\\' (by decide)⟩

/-- No name of an administration page needs decoding or leads anywhere. -/
theorem isAdminName_plain (admin : isAdminName name = true) : name.all plainChar = true := by
  unfold isAdminName at admin
  obtain ⟨front, ending⟩ := Bool.and_eq_true_iff.mp admin
  obtain ⟨head, middle⟩ := Bool.and_eq_true_iff.mp front
  obtain ⟨rest, rfl⟩ := List.isPrefixOf_iff_prefix.mp head
  have own : ("admin".toList ++ rest).drop "admin".length = rest := List.drop_left
  rw [own] at middle ending
  have word : (rest.takeWhile (· ≠ '.')).all plainChar = true := by
    rcases Bool.or_eq_true_iff.mp middle with empty | dashed
    · rw [of_decide_eq_true empty]
      rfl
    · obtain ⟨both, letters⟩ := Bool.and_eq_true_iff.mp dashed
      obtain ⟨dash, -⟩ := Bool.and_eq_true_iff.mp both
      generalize rest.takeWhile (· ≠ '.') = word at dash letters ⊢
      cases word with
      | nil => rfl
      | cons first more =>
        obtain rfl : first = '-' := Option.some.inj (of_decide_eq_true dash)
        rw [List.all_cons, Bool.and_eq_true_iff]
        refine ⟨by decide, List.all_eq_true.mpr fun c inside => ?_⟩
        exact plainChar_of_lower (List.all_eq_true.mp letters c inside)
  have extension : (rest.dropWhile (· ≠ '.')).all plainChar = true := by
    obtain ⟨ext, listed, same⟩ := List.any_eq_true.mp ending
    have plain : ([".html", ".js", ".css"].all fun ext => ext.toList.all plainChar) = true := by decide
    rw [of_decide_eq_true same]
    exact List.all_eq_true.mp plain ext listed
  have front : "admin".toList.all plainChar = true := by decide
  rw [List.all_append, front, ← List.takeWhile_append_dropWhile (p := (· ≠ '.')) (l := rest), List.all_append, word, extension]
  rfl

theorem urlNoQuery_eq (under : dashboardPrefix.isPrefixOf url.toList = true) :
    urlNoQuery url = dashboardPrefix ++ spelling url := by
  obtain ⟨rest, shape⟩ := List.isPrefixOf_iff_prefix.mp under
  have free : (dashboardPrefix.all fun c => decide (c ≠ '?')) = true := by decide
  have cut : urlNoQuery url = dashboardPrefix ++ rest.takeWhile (· ≠ '?') := by
    rw [urlNoQuery, ← shape, List.takeWhile_append_of_pos (List.all_eq_true.mp free)]
  rw [spelling, cut, List.drop_left]

theorem isAdminAsset_eq (under : dashboardPrefix.isPrefixOf url.toList = true) :
    isAdminAsset (urlNoQuery url) = isAdminName (spelling url) := by
  have head : dashboardPrefix.isPrefixOf (urlNoQuery url) = true :=
    List.isPrefixOf_iff_prefix.mpr (urlNoQuery_eq under ▸ List.prefix_append _ _)
  rw [isAdminAsset, head, Bool.true_and, spelling]

theorem replaceWithNothing_front {needle : List Char} (some : needle ≠ []) (rest : List Char) :
    replaceWithNothing needle (needle ++ rest) = rest := by
  obtain ⟨c, more, rfl⟩ := List.exists_cons_of_ne_nil some
  have head : (c :: more).isPrefixOf (c :: (more ++ rest)) = true := List.isPrefixOf_iff_prefix.mpr ⟨rest, rfl⟩
  rw [List.cons_append, replaceWithNothing, if_pos head, ← List.cons_append, List.drop_left]

/-- What was served had its file and its headers chosen apart. -/
theorem serveDashboard_served (reply : serveDashboard cwd (some dir) files url = .served file headers content) :
    dashboardFile cwd dir url = some file ∧
      headers = if isAdminAsset (urlNoQuery url) then adminHeaders (contentType (extname file))
        else legacyHeaders (contentType (extname file)) := by
  unfold serveDashboard at reply
  split at reply
  · dsimp only at reply
    cases found : dashboardFile cwd dir url with
    | none => rw [found] at reply; exact nomatch reply
    | some own =>
      rw [found] at reply
      dsimp only at reply
      split at reply
      · split at reply
        · exact nomatch reply
        · injection reply with sameFile sameHeaders
          subst sameFile
          exact ⟨rfl, sameHeaders.symm⟩
      · exact nomatch reply
  · exact nomatch reply

theorem DashboardDir.shape (dir : DashboardDir cwd) : PosixPath.Names '/' '.' (rootSegments cwd dir.path) ∧
    dir.path.toList = PosixPath.rooted '/' (rootSegments cwd dir.path) := by
  obtain ⟨parts, given⟩ := dir.resolved
  obtain ⟨names, named, shape⟩ := PosixPath.resolvePaths_rooted '.' cwd.absolute parts
  have text : dir.path.toList = PosixPath.rooted '/' names := given.trans shape
  have own : rootSegments cwd dir.path = names := by
    rw [rootSegments, pathResolve, text, PosixPath.resolvePaths_self named, PosixPath.segments_rooted named]
  rw [own]
  exact ⟨named, text⟩

theorem indexFile_segments (dir : DashboardDir cwd) :
    PosixPath.segments '/' (pathJoin [dir.path.toList, "index.html".toList]) =
      rootSegments cwd dir.path ++ ["index.html".toList] := by
  obtain ⟨named, text⟩ := dir.shape
  have kept : [dir.path.toList, "index.html".toList].filter (· ≠ []) = [dir.path.toList, "index.html".toList] := by
    rw [text]
    rfl
  have joined : PosixPath.join '/' [dir.path.toList, "index.html".toList] = dir.path.toList ++ '/' :: "index.html".toList :=
    PosixPath.join_cons _ (List.cons_ne_nil _ _)
  have pushed : PosixPath.walk '/' '.' (rootSegments cwd dir.path) "index.html".toList =
      rootSegments cwd dir.path ++ ["index.html".toList] := by
    rw [PosixPath.walk_segment (by decide), PosixPath.push_name (by decide) (by decide), List.reverse_cons,
      List.reverse_reverse]
  have names : PosixPath.Names '/' '.' (rootSegments cwd dir.path ++ ["index.html".toList]) := pushed ▸ named.walk _
  rw [pathJoin, kept, joined, text, PosixPath.normalize_rooted_append named (by decide) (by decide), pushed,
    PosixPath.segments_rooted names]

theorem dashboardFile_join (under : dashboardPrefix.isPrefixOf url.toList = true) (other : url ≠ "/dashboard/") :
    dashboardFile cwd dir url = safeJoinUnderRoot cwd dir.path (String.ofList (spelling url)) := by
  have neither : ¬ (url = "/dashboard" ∨ url = "/dashboard/") := by
    rintro (rfl | index)
    · exact absurd under (by decide)
    · exact other index
  rw [dashboardFile, if_neg neither, urlNoQuery_eq under, replaceWithNothing_front (by decide)]

/-- Whatever the URL says, the file lies in the directory. -/
theorem dashboardFile_inside (found : dashboardFile cwd dir url = some file) :
    rootSegments cwd dir.path <+: PosixPath.segments '/' file.toList := by
  unfold dashboardFile at found
  split at found
  · obtain rfl := Option.some.inj found
    rw [String.toList_ofList, indexFile_segments]
    exact List.prefix_append _ _
  · obtain ⟨-, decoded, -, -, -, inside, text⟩ := safeJoinUnderRoot_some found
    rwa [text, PosixPath.segments_rooted (walkedSegments_names _ _ _)]

/-- A plain spelling of a file in the directory is its name. -/
theorem spelling_eq (found : safeJoinUnderRoot cwd dir.path (String.ofList (spelling url)) = some file)
    (own : PosixPath.segments '/' file.toList = rootSegments cwd dir.path ++ [name]) (plain : PlainSpelling url) :
    spelling url = name := by
  obtain ⟨noPercent, noSlash, noBack⟩ := plain
  obtain ⟨-, decoded, decodes, -, -, -, text⟩ := safeJoinUnderRoot_some found
  rw [decodeURIComponent_plain noPercent] at decodes
  obtain rfl := Option.some.inj decodes
  have whole : trimmedPath (String.ofList (spelling url)) = spelling url := by
    rw [trimmedPath, String.toList_ofList]
    cases start : spelling url with
    | nil => rfl
    | cons c rest =>
      rw [start] at noSlash noBack
      refine List.dropWhile_cons_of_neg ?_
      have notSlash : c ≠ '/' := fun same => noSlash (same ▸ List.mem_cons_self)
      have notBack : c ≠ '\\' := fun same => noBack (congrArg some same)
      simp [notSlash, notBack]
  have leads : PosixPath.walk '/' '.' (rootSegments cwd dir.path) (spelling url) = rootSegments cwd dir.path ++ [name] := by
    rw [← own, text, PosixPath.segments_rooted (walkedSegments_names _ _ _), walkedSegments, whole]
  exact PosixPath.eq_of_walk_concat noSlash leads

theorem adminPage_hardened_iff (under : startsWith url "/dashboard/" = true)
    (reply : serveDashboard cwd (some dir) files url = .served file headers content) (admin : isAdminName name = true)
    (own : PosixPath.segments '/' file.toList = PosixPath.segments '/' dir.path.toList ++ [name]) :
    Hardened url file headers ↔ PlainSpelling url := by
  obtain ⟨found, shape⟩ := serveDashboard_served reply
  have root : PosixPath.segments '/' dir.path.toList = rootSegments cwd dir.path := by
    rw [dir.shape.2, PosixPath.segments_rooted dir.shape.1]
  rw [root] at own
  have other : url ≠ "/dashboard/" := by
    rintro rfl
    obtain rfl := Option.some.inj found
    rw [String.toList_ofList, indexFile_segments] at own
    have index : "index.html".toList = name := List.singleton_inj.mp (List.append_cancel_left own)
    rw [← index] at admin
    exact absurd admin (by decide)
  rw [dashboardFile_join under other] at found
  constructor
  · intro hardened
    have named : isAdminName (spelling url) = true := isAdminAsset_eq under ▸ hardened.asset
    have plain := List.all_eq_true.mp (isAdminName_plain named)
    refine ⟨fun percent => absurd (plain _ percent) (by decide), fun slash => absurd (plain _ slash) (by decide), fun back => ?_⟩
    exact absurd (plain _ (List.mem_of_mem_head? back)) (by decide)
  · intro plain
    have asset : isAdminAsset (urlNoQuery url) = true := by
      rw [isAdminAsset_eq under, spelling_eq found own plain, admin]
    rw [if_pos asset] at shape
    refine ⟨asset, shape, ?_⟩
    rw [shape]
    simp [adminHeaders]

end dashboard

def vectorDirectory : WorkingDirectory := ⟨"/srv".toList, rfl⟩

def vectorDashboard : DashboardDir vectorDirectory :=
  ⟨"/srv/dashboard/public", ["/srv".toList, "dashboard".toList, "public".toList], by decide⟩

def vectorFiles : StaticFiles where
  existsSync file := file = "/srv/dashboard/public/admin.html"
  readFileSync file := if file = "/srv/dashboard/public/admin.html" then some "<!doctype html>" else none

theorem adminPage_hardened_vector :
    Hardened "/dashboard/admin.html?v=2" "/srv/dashboard/public/admin.html" (adminHeaders "text/html") ↔
      PlainSpelling "/dashboard/admin.html?v=2" := by
  have reply : serveDashboard vectorDirectory (some vectorDashboard) vectorFiles "/dashboard/admin.html?v=2" =
      .served "/srv/dashboard/public/admin.html" (adminHeaders "text/html") "<!doctype html>" := by
    decide +kernel
  have own : PosixPath.segments '/' "/srv/dashboard/public/admin.html".toList =
      PosixPath.segments '/' vectorDashboard.path.toList ++ ["admin.html".toList] := by
    decide +kernel
  exact adminPage_hardened_iff (by decide) reply (by decide) own

/-- With its first letter spelled `%61` the page is served like any other file. -/
theorem not_adminPage_hardened : ¬ ∀ (cwd : WorkingDirectory) (dir : DashboardDir cwd) (files : StaticFiles)
    (url file content : String) (headers : List (String × String)) (name : List Char),
    startsWith url "/dashboard/" = true → serveDashboard cwd (some dir) files url = .served file headers content →
      isAdminName name = true →
        PosixPath.segments '/' file.toList = PosixPath.segments '/' dir.path.toList ++ [name] → Hardened url file headers := by
  intro claim
  have reply : serveDashboard vectorDirectory (some vectorDashboard) vectorFiles "/dashboard/%61dmin.html" =
      .served "/srv/dashboard/public/admin.html" (legacyHeaders "text/html") "<!doctype html>" := by
    decide +kernel
  have hardened := claim vectorDirectory vectorDashboard vectorFiles "/dashboard/%61dmin.html" _ _ _ "admin.html".toList
    (by decide) reply (by decide) (by decide +kernel)
  exact absurd hardened.asset (by decide)

end Coordinator
