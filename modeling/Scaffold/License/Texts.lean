import Scaffold.Text.Split

/-!
# License/Texts — the texts of the licenses

Templates that fill in the year and the holder, line by line.
-/

namespace Scaffold.License

/-- The Affero General Public License. -/
def agpl3Text : String := Text.join "\n" [
  "Copyright (C) \x7b\x7b license_year \x7d\x7d \x7b\x7b license_holder \x7d\x7d",
  "",
  "This program is free software: you can redistribute it and/or modify",
  "it under the terms of the GNU Affero General Public License as published",
  "by the Free Software Foundation, either version 3 of the License, or",
  "(at your option) any later version.",
  "",
  "This program is distributed in the hope that it will be useful,",
  "but WITHOUT ANY WARRANTY; without even the implied warranty of",
  "MERCHANTABILITY or FITNESS FOR A PARTICULAR PURPOSE.  See the",
  "GNU Affero General Public License for more details.",
  "",
  "You should have received a copy of the GNU Affero General Public License",
  "along with this program.  If not, see <https://www.gnu.org/licenses/>.",
  ""]

/-- The Apache License. -/
def apache2Text : String := Text.join "\n" [
  "Copyright \x7b\x7b license_year \x7d\x7d \x7b\x7b license_holder \x7d\x7d",
  "",
  "Licensed under the Apache License, Version 2.0 (the \"License\");",
  "you may not use this file except in compliance with the License.",
  "You may obtain a copy of the License at",
  "",
  "    http://www.apache.org/licenses/LICENSE-2.0",
  "",
  "Unless required by applicable law or agreed to in writing, software",
  "distributed under the License is distributed on an \"AS IS\" BASIS,",
  "WITHOUT WARRANTIES OR CONDITIONS OF ANY KIND, either express or implied.",
  "See the License for the specific language governing permissions and",
  "limitations under the License.",
  ""]

/-- The BSD license with two clauses. -/
def bsd2Text : String := Text.join "\n" [
  "BSD 2-Clause License",
  "",
  "Copyright (c) \x7b\x7b license_year \x7d\x7d, \x7b\x7b license_holder \x7d\x7d",
  "",
  "Redistribution and use in source and binary forms, with or without",
  "modification, are permitted provided that the following conditions are met:",
  "",
  "1. Redistributions of source code must retain the above copyright notice, this",
  "   list of conditions and the following disclaimer.",
  "",
  "2. Redistributions in binary form must reproduce the above copyright notice,",
  "   this list of conditions and the following disclaimer in the documentation",
  "   and/or other materials provided with the distribution.",
  "",
  "THIS SOFTWARE IS PROVIDED BY THE COPYRIGHT HOLDERS AND CONTRIBUTORS \"AS IS\"",
  "AND ANY EXPRESS OR IMPLIED WARRANTIES, INCLUDING, BUT NOT LIMITED TO, THE",
  "IMPLIED WARRANTIES OF MERCHANTABILITY AND FITNESS FOR A PARTICULAR PURPOSE ARE",
  "DISCLAIMED. IN NO EVENT SHALL THE COPYRIGHT HOLDER OR CONTRIBUTORS BE LIABLE",
  "FOR ANY DIRECT, INDIRECT, INCIDENTAL, SPECIAL, EXEMPLARY, OR CONSEQUENTIAL",
  "DAMAGES (INCLUDING, BUT NOT LIMITED TO, PROCUREMENT OF SUBSTITUTE GOODS OR",
  "SERVICES; LOSS OF USE, DATA, OR PROFITS; OR BUSINESS INTERRUPTION) HOWEVER",
  "CAUSED AND ON ANY THEORY OF LIABILITY, WHETHER IN CONTRACT, STRICT LIABILITY,",
  "OR TORT (INCLUDING NEGLIGENCE OR OTHERWISE) ARISING IN ANY WAY OUT OF THE USE",
  "OF THIS SOFTWARE, EVEN IF ADVISED OF THE POSSIBILITY OF SUCH DAMAGE.",
  ""]

/-- The BSD license with three clauses. -/
def bsd3Text : String := Text.join "\n" [
  "BSD 3-Clause License",
  "",
  "Copyright (c) \x7b\x7b license_year \x7d\x7d, \x7b\x7b license_holder \x7d\x7d",
  "",
  "Redistribution and use in source and binary forms, with or without",
  "modification, are permitted provided that the following conditions are met:",
  "",
  "1. Redistributions of source code must retain the above copyright notice, this",
  "   list of conditions and the following disclaimer.",
  "",
  "2. Redistributions in binary form must reproduce the above copyright notice,",
  "   this list of conditions and the following disclaimer in the documentation",
  "   and/or other materials provided with the distribution.",
  "",
  "3. Neither the name of the copyright holder nor the names of its",
  "   contributors may be used to endorse or promote products derived from",
  "   this software without specific prior written permission.",
  "",
  "THIS SOFTWARE IS PROVIDED BY THE COPYRIGHT HOLDERS AND CONTRIBUTORS \"AS IS\"",
  "AND ANY EXPRESS OR IMPLIED WARRANTIES, INCLUDING, BUT NOT LIMITED TO, THE",
  "IMPLIED WARRANTIES OF MERCHANTABILITY AND FITNESS FOR A PARTICULAR PURPOSE ARE",
  "DISCLAIMED. IN NO EVENT SHALL THE COPYRIGHT HOLDER OR CONTRIBUTORS BE LIABLE",
  "FOR ANY DIRECT, INDIRECT, INCIDENTAL, SPECIAL, EXEMPLARY, OR CONSEQUENTIAL",
  "DAMAGES (INCLUDING, BUT NOT LIMITED TO, PROCUREMENT OF SUBSTITUTE GOODS OR",
  "SERVICES; LOSS OF USE, DATA, OR PROFITS; OR BUSINESS INTERRUPTION) HOWEVER",
  "CAUSED AND ON ANY THEORY OF LIABILITY, WHETHER IN CONTRACT, STRICT LIABILITY,",
  "OR TORT (INCLUDING NEGLIGENCE OR OTHERWISE) ARISING IN ANY WAY OUT OF THE USE",
  "OF THIS SOFTWARE, EVEN IF ADVISED OF THE POSSIBILITY OF SUCH DAMAGE.",
  ""]

/-- The Boost Software License. -/
def bsl1Text : String := Text.join "\n" [
  "Boost Software License - Version 1.0 - August 17th, 2003",
  "",
  "Copyright (c) \x7b\x7b license_year \x7d\x7d \x7b\x7b license_holder \x7d\x7d",
  "",
  "Permission is hereby granted, free of charge, to any person or organization",
  "obtaining a copy of the software and accompanying documentation covered by",
  "this license (the \"Software\") to use, reproduce, display, distribute,",
  "execute, and transmit the Software, and to prepare derivative works of the",
  "Software, and to permit third-parties to whom the Software is furnished to",
  "do so, all subject to the following:",
  "",
  "The copyright notices in the Software and this entire statement, including",
  "the above license grant, this restriction and the following disclaimer,",
  "must be included in all copies of the Software, in whole or in part, and",
  "all derivative works of the Software, unless such copies or derivative",
  "works are solely in the form of machine-executable object code generated by",
  "a source language processor.",
  "",
  "THE SOFTWARE IS PROVIDED \"AS IS\", WITHOUT WARRANTY OF ANY KIND, EXPRESS OR",
  "IMPLIED, INCLUDING BUT NOT LIMITED TO THE WARRANTIES OF MERCHANTABILITY,",
  "FITNESS FOR A PARTICULAR PURPOSE, TITLE AND NON-INFRINGEMENT. IN NO EVENT",
  "SHALL THE COPYRIGHT HOLDERS OR ANYONE DISTRIBUTING THE SOFTWARE BE LIABLE",
  "FOR ANY DAMAGES OR OTHER LIABILITY, WHETHER IN CONTRACT, TORT OR OTHERWISE,",
  "ARISING FROM, OUT OF OR IN CONNECTION WITH THE SOFTWARE OR THE USE OR OTHER",
  "DEALINGS IN THE SOFTWARE.",
  ""]

/-- The dedication to the public domain. -/
def cc0Text : String := Text.join "\n" [
  "CC0 1.0 Universal",
  "",
  "To the extent possible under law, \x7b\x7b license_holder \x7d\x7d has waived all",
  "copyright and related or neighboring rights to this work. This work is",
  "published from \x7b\x7b license_year \x7d\x7d onwards.",
  "",
  "The full legal code is available at",
  "https://creativecommons.org/publicdomain/zero/1.0/legalcode",
  ""]

/-- The Eclipse Public License. -/
def epl2Text : String := Text.join "\n" [
  "Copyright (c) \x7b\x7b license_year \x7d\x7d \x7b\x7b license_holder \x7d\x7d",
  "",
  "This program and the accompanying materials are made available under the",
  "terms of the Eclipse Public License 2.0 which is available at",
  "https://www.eclipse.org/legal/epl-2.0.",
  "",
  "SPDX-License-Identifier: EPL-2.0",
  ""]

/-- The General Public License, second version. -/
def gpl2Text : String := Text.join "\n" [
  "Copyright (C) \x7b\x7b license_year \x7d\x7d \x7b\x7b license_holder \x7d\x7d",
  "",
  "This program is free software; you can redistribute it and/or modify",
  "it under the terms of the GNU General Public License as published by",
  "the Free Software Foundation; either version 2 of the License, or",
  "(at your option) any later version.",
  "",
  "This program is distributed in the hope that it will be useful,",
  "but WITHOUT ANY WARRANTY; without even the implied warranty of",
  "MERCHANTABILITY or FITNESS FOR A PARTICULAR PURPOSE.  See the",
  "GNU General Public License for more details.",
  "",
  "You should have received a copy of the GNU General Public License along",
  "with this program; if not, write to the Free Software Foundation, Inc.,",
  "51 Franklin Street, Fifth Floor, Boston, MA 02110-1301 USA.",
  ""]

/-- The General Public License, third version. -/
def gpl3Text : String := Text.join "\n" [
  "Copyright (C) \x7b\x7b license_year \x7d\x7d \x7b\x7b license_holder \x7d\x7d",
  "",
  "This program is free software: you can redistribute it and/or modify",
  "it under the terms of the GNU General Public License as published by",
  "the Free Software Foundation, either version 3 of the License, or",
  "(at your option) any later version.",
  "",
  "This program is distributed in the hope that it will be useful,",
  "but WITHOUT ANY WARRANTY; without even the implied warranty of",
  "MERCHANTABILITY or FITNESS FOR A PARTICULAR PURPOSE.  See the",
  "GNU General Public License for more details.",
  "",
  "You should have received a copy of the GNU General Public License",
  "along with this program.  If not, see <https://www.gnu.org/licenses/>.",
  ""]

/-- The Lesser General Public License. -/
def lgpl21Text : String := Text.join "\n" [
  "Copyright (C) \x7b\x7b license_year \x7d\x7d \x7b\x7b license_holder \x7d\x7d",
  "",
  "This library is free software; you can redistribute it and/or",
  "modify it under the terms of the GNU Lesser General Public",
  "License as published by the Free Software Foundation; either",
  "version 2.1 of the License, or (at your option) any later version.",
  "",
  "This library is distributed in the hope that it will be useful,",
  "but WITHOUT ANY WARRANTY; without even the implied warranty of",
  "MERCHANTABILITY or FITNESS FOR A PARTICULAR PURPOSE.  See the GNU",
  "Lesser General Public License for more details.",
  "",
  "You should have received a copy of the GNU Lesser General Public",
  "License along with this library; if not, write to the Free Software",
  "Foundation, Inc., 51 Franklin Street, Fifth Floor, Boston, MA  02110-1301  USA",
  ""]

/-- The license of the MIT. -/
def mitText : String := Text.join "\n" [
  "MIT License",
  "",
  "Copyright (c) \x7b\x7b license_year \x7d\x7d \x7b\x7b license_holder \x7d\x7d",
  "",
  "Permission is hereby granted, free of charge, to any person obtaining a copy",
  "of this software and associated documentation files (the \"Software\"), to deal",
  "in the Software without restriction, including without limitation the rights",
  "to use, copy, modify, merge, publish, distribute, sublicense, and/or sell",
  "copies of the Software, and to permit persons to whom the Software is",
  "furnished to do so, subject to the following conditions:",
  "",
  "The above copyright notice and this permission notice shall be included in all",
  "copies or substantial portions of the Software.",
  "",
  "THE SOFTWARE IS PROVIDED \"AS IS\", WITHOUT WARRANTY OF ANY KIND, EXPRESS OR",
  "IMPLIED, INCLUDING BUT NOT LIMITED TO THE WARRANTIES OF MERCHANTABILITY,",
  "FITNESS FOR A PARTICULAR PURPOSE AND NONINFRINGEMENT. IN NO EVENT SHALL THE",
  "AUTHORS OR COPYRIGHT HOLDERS BE LIABLE FOR ANY CLAIM, DAMAGES OR OTHER",
  "LIABILITY, WHETHER IN AN ACTION OF CONTRACT, TORT OR OTHERWISE, ARISING FROM,",
  "OUT OF OR IN CONNECTION WITH THE SOFTWARE OR THE USE OR OTHER DEALINGS IN THE",
  "SOFTWARE.",
  ""]

/-- The Mozilla Public License. -/
def mpl2Text : String := Text.join "\n" [
  "Copyright (c) \x7b\x7b license_year \x7d\x7d \x7b\x7b license_holder \x7d\x7d",
  "",
  "This Source Code Form is subject to the terms of the Mozilla Public",
  "License, v. 2.0. If a copy of the MPL was not distributed with this",
  "file, You can obtain one at https://mozilla.org/MPL/2.0/.",
  ""]

/-- The Unlicense. -/
def unlicenseText : String := Text.join "\n" [
  "This is free and unencumbered software released into the public domain.",
  "",
  "Anyone is free to copy, modify, publish, use, compile, sell, or",
  "distribute this software, either in source code form or as a compiled",
  "binary, for any purpose, commercial or non-commercial, and by any",
  "means.",
  "",
  "In jurisdictions that recognize copyright laws, the author or authors",
  "of this software dedicate any and all copyright interest in the",
  "software to the public domain. We make this dedication for the benefit",
  "of the public at large and to the detriment of our heirs and",
  "successors. We intend this dedication to be an overt act of",
  "relinquishment in perpetuity of all present and future rights to this",
  "software under copyright law.",
  "",
  "THE SOFTWARE IS PROVIDED \"AS IS\", WITHOUT WARRANTY OF ANY KIND,",
  "EXPRESS OR IMPLIED, INCLUDING BUT NOT LIMITED TO THE WARRANTIES OF",
  "MERCHANTABILITY, FITNESS FOR A PARTICULAR PURPOSE AND NONINFRINGEMENT.",
  "IN NO EVENT SHALL THE AUTHORS BE LIABLE FOR ANY CLAIM, DAMAGES OR",
  "OTHER LIABILITY, WHETHER IN AN ACTION OF CONTRACT, TORT OR OTHERWISE,",
  "ARISING FROM, OUT OF OR IN CONNECTION WITH THE SOFTWARE OR THE USE OR",
  "OTHER DEALINGS IN THE SOFTWARE.",
  "",
  "For more information, please refer to <https://unlicense.org>",
  ""]

end Scaffold.License
