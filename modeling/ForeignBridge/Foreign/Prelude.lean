/-! # The prelude

What the main module defines before anything else runs: classes and functions that bring out the
corners of the interpreter. A line of the list is a line of the source text.
-/

namespace ForeignBridge.Foreign

/-- The lines of the prelude. -/
def preludeLines : List String := [
  "class Plain:",
  "    pass",
  "",
  "class Point:",
  "    def __init__(self, x=3, y=4):",
  "        self.x = x",
  "        self.y = y",
  "    def __repr__(self):",
  "        return 'Point(' + repr(self.x) + ', ' + repr(self.y) + ')'",
  "    def __eq__(self, other):",
  "        return self is other",
  "    def __hash__(self):",
  "        return 7",
  "    def norm1(self, scale=1):",
  "        return (self.x + self.y) * scale",
  "",
  "class Widget:",
  "    def __init__(self):",
  "        self.to_string = 'shadowed'",
  "    def __str__(self):",
  "        return 'widget'",
  "    def __repr__(self):",
  "        return '<Widget>'",
  "",
  "class Shadow:",
  "    call = 'own call'",
  "    value_of = 12",
  "    def __call__(self, *args, **kwargs):",
  "        return [list(args), kwargs]",
  "",
  "class BadStr:",
  "    def __str__(self):",
  "        raise ValueError('bad str')",
  "    def __repr__(self):",
  "        raise KeyError('bad repr')",
  "",
  "class IntStr:",
  "    def __str__(self):",
  "        return 5",
  "    def __repr__(self):",
  "        return None",
  "",
  "class SurrogateStr:",
  "    def __str__(self):",
  "        return 'a\\ud800b'",
  "    def __repr__(self):",
  "        return ''",
  "",
  "class Slots:",
  "    __slots__ = ('a',)",
  "",
  "class Prop:",
  "    @property",
  "    def ok(self):",
  "        return 'fine'",
  "    @property",
  "    def boom(self):",
  "        raise ValueError('prop boom')",
  "    @property",
  "    def bare(self):",
  "        raise AttributeError('inner')",
  "",
  "class Dyn:",
  "    def __getattr__(self, name):",
  "        if name.startswith('k'):",
  "            raise KeyError(name)",
  "        return 'dyn:' + name",
  "    def __setattr__(self, name, value):",
  "        raise TypeError('frozen ' + name)",
  "",
  "class MyInt(int):",
  "    pass",
  "",
  "class MyFloat(float):",
  "    pass",
  "",
  "class MyStr(str):",
  "    pass",
  "",
  "class MyList(list):",
  "    pass",
  "",
  "class MyDict(dict):",
  "    pass",
  "",
  "class TouchyKey:",
  "    armed = False",
  "    def __hash__(self):",
  "        return 7",
  "    def __repr__(self):",
  "        return '<TouchyKey>'",
  "    def __eq__(self, other):",
  "        if TouchyKey.armed:",
  "            raise RuntimeError('compared while armed')",
  "        return self is other",
  "",
  "class BadHash:",
  "    def __hash__(self):",
  "        raise ValueError('no hash today')",
  "",
  "class BadCall:",
  "    def __call__(self):",
  "        raise LookupError('called')",
  "",
  "class Quiet(Exception):",
  "    def __str__(self):",
  "        return ''",
  "",
  "class Loud(Exception):",
  "    def __str__(self):",
  "        raise RuntimeError('str failed')",
  "",
  "class Lone(Exception):",
  "    def __str__(self):",
  "        return '\\udc80'",
  "",
  "class NamelessMeta(type):",
  "    def __str__(cls):",
  "        return ''",
  "",
  "class Nameless(Exception, metaclass=NamelessMeta):",
  "    def __str__(self):",
  "        return ''",
  "",
  "class BrokenMeta(type):",
  "    def __str__(cls):",
  "        raise RuntimeError('meta')",
  "",
  "class Broken(Exception, metaclass=BrokenMeta):",
  "    def __str__(self):",
  "        raise RuntimeError('str failed')",
  "",
  "def add(a, b):",
  "    return a + b",
  "",
  "def ident(x):",
  "    return x",
  "",
  "def sink(*args, **kwargs):",
  "    return len(args) + len(kwargs)",
  "",
  "def collect(*args, **kwargs):",
  "    return \x7b'args': list(args), 'kwargs': kwargs\x7d",
  "",
  "def kwonly(a, *, b=2):",
  "    return [a, b]",
  "",
  "def nothing():",
  "    pass",
  "",
  "def explode(message='kaboom'):",
  "    raise RuntimeError(message)",
  "",
  "def explode_outer(message='kaboom'):",
  "    return explode(message)",
  "",
  "def explode_deep(n):",
  "    if n == 0:",
  "        raise ValueError('bottom')",
  "    return explode_deep(n - 1)",
  "",
  "def throw(exc):",
  "    raise exc",
  "",
  "def chained():",
  "    try:",
  "        explode('first')",
  "    except RuntimeError:",
  "        raise KeyError('second')",
  "",
  "def bad_tuple(*args):",
  "    return (1, 2, *args)",
  "",
  "def make_deep(n, leaf=None):",
  "    value = leaf",
  "    for _ in range(n):",
  "        value = [value]",
  "    return value",
  "",
  "def make_deep_dict(n, leaf=None):",
  "    value = leaf",
  "    for _ in range(n):",
  "        value = \x7b'k': value\x7d",
  "    return value",
  "",
  "def make_deep_mixed(n, leaf=None):",
  "    value = leaf",
  "    for i in range(n):",
  "        value = [value] if i % 2 else \x7bi: value\x7d",
  "    return value",
  "",
  "def make_cycle():",
  "    value = [1]",
  "    value.append(value)",
  "    return value",
  "",
  "def make_dict_cycle():",
  "    value = \x7b'n': 1\x7d",
  "    value['self'] = value",
  "    return value",
  "",
  "def make_mutual():",
  "    a = \x7b\x7d",
  "    b = \x7b'a': a\x7d",
  "    a['b'] = b",
  "    return a",
  "",
  "def make_mixed_cycle():",
  "    inner = [0]",
  "    outer = \x7b'inner': inner\x7d",
  "    inner.append(outer)",
  "    inner.append(inner)",
  "    return outer",
  "",
  "def make_shared():",
  "    leaf = [1, 2]",
  "    return [leaf, leaf, \x7b'leaf': leaf\x7d]",
  "",
  "def make_touchy():",
  "    TouchyKey.armed = False",
  "    value = \x7bTouchyKey(): 1, TouchyKey(): 2\x7d",
  "    TouchyKey.armed = True",
  "    return value",
  "",
  "def ladder(n):",
  "    value = []",
  "    for _ in range(n):",
  "        value = [value, value]",
  "    return value",
  "",
  "def bridge_types():",
  "    return [None, True, 1, 1.5, 's', [], \x7b\x7d]",
  "",
  "def sys_path_head(n):",
  "    import sys",
  "    return sys.path[:n]",
  "",
  "def sys_path_push(entry):",
  "    import sys",
  "    sys.path.insert(0, entry)",
  "",
  "def install(name, **members):",
  "    import sys",
  "    module = type(sys)(name)",
  "    for key, value in members.items():",
  "        setattr(module, key, value)",
  "    sys.modules[name] = module",
  "",
  "def block(name):",
  "    import sys",
  "    sys.modules[name] = None",
  "",
  "def break_format_tb(mode):",
  "    import traceback",
  "    def fake(tb):",
  "        if mode == 'raise':",
  "            raise ValueError('format_tb broke')",
  "        if mode == 'none':",
  "            return None",
  "        if mode == 'tuple':",
  "            return ('  a\\n', '  b\\n')",
  "        if mode == 'empty':",
  "            return []",
  "        if mode == 'blank':",
  "            return ['', '\\n', '  \\n']",
  "        if mode == 'mixed':",
  "            return ['  one\\n', 2, None, '  \\ud800\\n', '  three\\n\\n']",
  "        return ['  custom ' + mode + '\\n']",
  "    traceback.format_tb = fake",
  "",
  "def drop_format_tb():",
  "    import traceback",
  "    del traceback.format_tb",
  "",
  "def block_traceback():",
  "    import sys",
  "    sys.modules['traceback'] = None"
]

/-- The source text of the prelude. -/
def prelude : String := String.join (preludeLines.map (· ++ "\n"))

end ForeignBridge.Foreign
