/-! # What finds and loads modules, in the language

The source text of the classes of the objects that say how a module was found. A line of a list is a
line of the source text.
-/

namespace ForeignBridge.Foreign.Library

/-- Records of how modules are found, and what loads them. -/
def finders : List String := [
  "class ModuleSpec:",
  "    def __init__(self, name, loader, *, origin=None, loader_state=None, is_package=None):",
  "        self.name = name",
  "        self.loader = loader",
  "        self.origin = origin",
  "        self.loader_state = loader_state",
  "        self.submodule_search_locations = [] if is_package else None",
  "        self._set_fileattr = False",
  "        self._cached = None",
  "",
  "    def __repr__(self):",
  "        args = ['name=%r' % (self.name,), 'loader=%r' % (self.loader,)]",
  "        if self.origin is not None:",
  "            args.append('origin=%r' % (self.origin,))",
  "        if self.submodule_search_locations is not None:",
  "            args.append('submodule_search_locations=%s' % (self.submodule_search_locations,))",
  "        return '%s(%s)' % (self.__class__.__name__, ', '.join(args))",
  "",
  "    def __eq__(self, other):",
  "        smsl = self.submodule_search_locations",
  "        try:",
  "            return (self.name == other.name and self.loader == other.loader and",
  "                    self.origin == other.origin and",
  "                    smsl == other.submodule_search_locations and",
  "                    self.cached == other.cached and self.has_location == other.has_location)",
  "        except AttributeError:",
  "            return NotImplemented",
  "",
  "    @property",
  "    def cached(self):",
  "        return self._cached",
  "",
  "    @cached.setter",
  "    def cached(self, cached):",
  "        self._cached = cached",
  "",
  "    @property",
  "    def parent(self):",
  "        if self.submodule_search_locations is None:",
  "            return self.name.rpartition('.')[0]",
  "        else:",
  "            return self.name",
  "",
  "    @property",
  "    def has_location(self):",
  "        return self._set_fileattr",
  "",
  "    @has_location.setter",
  "    def has_location(self, value):",
  "        self._set_fileattr = bool(value)",
  "",
  "class BuiltinImporter:",
  "    _ORIGIN = 'built-in'",
  "    @staticmethod",
  "    def module_repr(module):",
  "        return '<module %r (%s)>' % (module.__name__, BuiltinImporter._ORIGIN)",
  "",
  "class FrozenImporter:",
  "    _ORIGIN = 'frozen'",
  "    @staticmethod",
  "    def module_repr(m):",
  "        return '<module %r (%s)>' % (m.__name__, FrozenImporter._ORIGIN)",
  "",
  "class PathFinder:",
  "    __module__ = '_frozen_importlib_external'",
  "",
  "class SourceFileLoader:",
  "    __module__ = '_frozen_importlib_external'",
  "    def __init__(self, fullname, path):",
  "        self.name = fullname",
  "        self.path = path",
  "    def get_filename(self, name=None):",
  "        return self.path",
  "    def is_package(self, fullname):",
  "        return False",
  "",
  "class NamespaceLoader:",
  "    __module__ = '_frozen_importlib_external'",
  "    def __init__(self, name, path):",
  "        self._path = path",
  "    def is_package(self, fullname):",
  "        return True",
  "    def get_source(self, fullname):",
  "        return ''",
  "",
  "class _NamespacePath:",
  "    __module__ = '_frozen_importlib_external'",
  "    def __init__(self, path):",
  "        self._path = path",
  "    def __iter__(self):",
  "        return iter(self._path)",
  "    def __getitem__(self, index):",
  "        return self._path[index]",
  "    def __setitem__(self, index, path):",
  "        self._path[index] = path",
  "    def __len__(self):",
  "        return len(self._path)",
  "    def __repr__(self):",
  "        return '_NamespacePath(%r)' % (self._path,)",
  "    def __contains__(self, item):",
  "        return item in self._path",
  "    def append(self, item):",
  "        self._path.append(item)"]

end ForeignBridge.Foreign.Library
