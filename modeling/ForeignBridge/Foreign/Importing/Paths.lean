/-! # Paths of files, in the language

The source texts of the modules of paths. A line of a list is a line of the source text, and parts
stand on fixed lines of it.
-/

namespace ForeignBridge.Foreign.Library

/-- The lines of some parts, each of which begins on a line of its own. -/
def placed (parts : List (Nat × List String)) : List String :=
  parts.foldl (fun lines (line, more) =>
    lines ++ List.replicate (line - 1 - lines.length) "" ++ more) []

/-- What paths have in common on all systems. -/
def genericPaths : List String := placed [
  (69, [
    "def commonprefix(m):",
    "",
    "    if not m: return ''",
    "",
    "",
    "",
    "    if not isinstance(m[0], (list, tuple)):",
    "        m = tuple(map(os.fspath, m))",
    "    s1 = min(m)",
    "    s2 = max(m)",
    "    for i, c in enumerate(s1):",
    "        if c != s2[i]:",
    "            return s1[:i]",
    "    return s1"]),
  (121, [
    "def _splitext(p, sep, altsep, extsep):",
    "    sepIndex = p.rfind(sep)",
    "    dotIndex = p.rfind(extsep)",
    "    if dotIndex > sepIndex:",
    "        filenameIndex = sepIndex + 1",
    "        while filenameIndex < dotIndex:",
    "            if p[filenameIndex:filenameIndex+1] != extsep:",
    "                return p[:dotIndex], p[dotIndex:]",
    "            filenameIndex += 1",
    "    return p, p[:0]"]),
  (144, [
    "def _check_arg_types(funcname, *args):",
    "    hasstr = hasbytes = False",
    "    for s in args:",
    "        if isinstance(s, str):",
    "            hasstr = True",
    "        elif isinstance(s, bytes):",
    "            hasbytes = True",
    "        else:",
    "            raise TypeError('%s() argument must be str, bytes, or os.PathLike object, not %r'",
    "                            % (funcname, s.__class__.__name__)) from None",
    "    if hasstr and hasbytes:",
    "        raise TypeError(\"Can't mix strings and bytes in path components\") from None"])]

/-- Paths whose parts have strokes between them. -/
def paths : List String := placed [
  (41, [
    "def _get_sep(path):",
    "    if isinstance(path, bytes):",
    "        return b'/'",
    "    else:",
    "        return '/'"]),
  (51, [
    "def normcase(s):",
    "",
    "    return os.fspath(s)"]),
  (60, [
    "def isabs(s):",
    "",
    "    s = os.fspath(s)",
    "    sep = _get_sep(s)",
    "    return s.startswith(sep)"]),
  (71, [
    "def join(a, *p):",
    "",
    "",
    "",
    "",
    "    a = os.fspath(a)",
    "    sep = _get_sep(a)",
    "    path = a",
    "    try:",
    "        if not p:",
    "            path[:0] + sep",
    "        for b in map(os.fspath, p):",
    "            if b.startswith(sep):",
    "                path = b",
    "            elif not path or path.endswith(sep):",
    "                path += b",
    "            else:",
    "                path += sep + b",
    "    except (TypeError, AttributeError, BytesWarning):",
    "        genericpath._check_arg_types('join', a, *p)",
    "        raise",
    "    return path"]),
  (100, [
    "def split(p):",
    "",
    "",
    "    p = os.fspath(p)",
    "    sep = _get_sep(p)",
    "    i = p.rfind(sep) + 1",
    "    head, tail = p[:i], p[i:]",
    "    if head and head != sep*len(head):",
    "        head = head.rstrip(sep)",
    "    return head, tail"]),
  (117, [
    "def splitext(p):",
    "    p = os.fspath(p)",
    "    if isinstance(p, bytes):",
    "        sep = b'/'",
    "        extsep = b'.'",
    "    else:",
    "        sep = '/'",
    "        extsep = '.'",
    "    return genericpath._splitext(p, sep, None, extsep)"]),
  (131, [
    "def splitdrive(p):",
    "",
    "",
    "    p = os.fspath(p)",
    "    return p[:0], p"]),
  (140, [
    "def basename(p):",
    "",
    "    p = os.fspath(p)",
    "    sep = _get_sep(p)",
    "    i = p.rfind(sep) + 1",
    "    return p[i:]"]),
  (150, [
    "def dirname(p):",
    "",
    "    p = os.fspath(p)",
    "    sep = _get_sep(p)",
    "    i = p.rfind(sep) + 1",
    "    head = p[:i]",
    "    if head and head != sep*len(head):",
    "        head = head.rstrip(sep)",
    "    return head"]),
  (345, [
    "def normpath(path):",
    "",
    "    path = os.fspath(path)",
    "    if isinstance(path, bytes):",
    "        sep = b'/'",
    "        empty = b''",
    "        dot = b'.'",
    "        dotdot = b'..'",
    "    else:",
    "        sep = '/'",
    "        empty = ''",
    "        dot = '.'",
    "        dotdot = '..'",
    "    if path == empty:",
    "        return dot",
    "    initial_slashes = path.startswith(sep)",
    "    if initial_slashes and path.startswith(sep*2) and not path.startswith(sep*3):",
    "        initial_slashes = 2",
    "    comps = path.split(sep)",
    "    new_comps = []",
    "    for comp in comps:",
    "        if comp in (empty, dot):",
    "            continue",
    "        if (comp != dotdot or (not initial_slashes and not new_comps) or",
    "             (new_comps and new_comps[-1] == dotdot)):",
    "            new_comps.append(comp)",
    "        elif new_comps:",
    "            new_comps.pop()",
    "    path = sep.join(new_comps)",
    "    if initial_slashes:",
    "        path = sep*initial_slashes + path",
    "    return path or dot"])]

end ForeignBridge.Foreign.Library
